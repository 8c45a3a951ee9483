import ServiceBeacon.Url.Segments

namespace ServiceBeacon
namespace Url

/-!
# URLs that have a hierarchy

Only a URL of a scheme that web browsers do not know can have a path that is
one opaque text.  A URL of any other scheme that was read from a text has
segments, so its path can always be extended.
-/

/-- What follows two slashes is read as a URL of the given scheme with segments. -/
theorem readAuthority_hierarchy {scheme text : List Char} {url : Url}
    (read : readAuthority scheme text = .ok url) :
    url.scheme = scheme ∧ ∃ parts, url.path = .segments parts := by
  unfold readAuthority at read
  simp only [bind, Except.bind, pure, Except.pure] at read
  split at read
  · cases read
  · split at read
    · cases read
    · cases read
      exact ⟨rfl, _, rfl⟩

theorem readFile_hierarchy {text : List Char} {url : Url} (read : readFile text = .ok url) :
    ∃ parts, url.path = .segments parts := by
  unfold readFile at read
  simp only [bind, Except.bind, pure, Except.pure] at read
  repeat' split at read
  all_goals cases read
  all_goals exact ⟨_, rfl⟩

/-- A text that is a URL of a scheme that web browsers know has segments. -/
theorem parse_hierarchy {text : List Char} {url : Url} (read : parse text = .ok url)
    (special : isSpecial url.scheme = true) : ∃ parts, url.path = .segments parts := by
  unfold parse at read
  split at read
  · rename_i scheme rest _
    unfold readAfterScheme at read
    split at read
    · exact readFile_hierarchy read
    · split at read
      · exact (readAuthority_hierarchy read).2
      · rename_i unknown
        split at read
        · exact (readAuthority_hierarchy read).2
        · cases read
          exact ⟨_, rfl⟩
        · cases read
          exact absurd special unknown
  · cases read

/-! ## URLs that are written as `http` ones -/

/-- Trimming spares the start of a text that begins with a scheme. -/
private theorem significant_http (rest : List Char) :
    ∃ kept, significant ("http://".toList ++ rest) = "http://".toList ++ kept := by
  have start : ("http://".toList ++ rest).dropWhile isTrimmed = "http://".toList ++ rest := rfl
  have front : "http://".toList.reverse.dropWhile isTrimmed = "http://".toList.reverse := rfl
  have whole : "http://".toList.filter (!isDropped ·) = "http://".toList := rfl
  unfold significant
  rw [start, List.reverse_append, List.dropWhile_append]
  split
  · rw [front, List.reverse_reverse, whole]
    exact ⟨[], rfl⟩
  · rw [List.reverse_append, List.reverse_reverse, List.filter_append, whole]
    exact ⟨_, rfl⟩

/-- Whatever follows, a URL that is written as an `http` one is one. -/
theorem scheme_of_parse_http {rest : List Char} {url : Url}
    (read : parse ("http://".toList ++ rest) = .ok url) : url.scheme = "http".toList := by
  rcases significant_http rest with ⟨kept, left⟩
  have scheme : splitScheme? ("http://".toList ++ kept) =
      some ("http".toList, '/' :: '/' :: kept) := rfl
  unfold parse at read
  rw [left, scheme] at read
  change readAfterScheme "http".toList ('/' :: '/' :: kept) = .ok url at read
  unfold readAfterScheme at read
  rw [if_neg (by decide), if_pos (by rfl)] at read
  exact (readAuthority_hierarchy read).1

end Url
end ServiceBeacon
