import ServiceBeacon.Address.Parser

namespace ServiceBeacon

/-!
# What addresses are spelled with

Whatever the reader of addresses takes from a text consists of hexadecimal
digits, colons and dots.  So a text that is an address as a whole has no other
character in it, wherever its zeros are left out and however its end is written.
-/

/-- Whether a character may occur in an address. -/
def isAddressCharacter (c : Char) : Bool := Text.isHex c || c == ':' || c == '.'

/-- What is left of a text once characters of an address are taken from its front. -/
def SpeltUpTo (text rest : List Char) : Prop :=
  ∃ front, text = front ++ rest ∧ ∀ c ∈ front, isAddressCharacter c = true

namespace SpeltUpTo

theorem refl (text : List Char) : SpeltUpTo text text := ⟨[], rfl, fun _ absent => nomatch absent⟩

theorem trans {text middle rest : List Char} (first : SpeltUpTo text middle)
    (second : SpeltUpTo middle rest) : SpeltUpTo text rest := by
  rcases first with ⟨front, rfl, characters⟩
  rcases second with ⟨more, rfl, others⟩
  refine ⟨front ++ more, (List.append_assoc front more rest).symm, fun c member => ?_⟩
  exact (List.mem_append.mp member).elim (characters c) (others c)

/-- A text of which nothing is left consists of what was taken. -/
theorem characters {text : List Char} (spelt : SpeltUpTo text []) :
    ∀ c ∈ text, isAddressCharacter c = true := by
  rcases spelt with ⟨front, rfl, characters⟩
  rwa [List.append_nil]

end SpeltUpTo

theorem isHex_of_digit? {base : Nat} {c : Char} (digit : (Text.digit? base c).isSome = true) :
    Text.isHex c = true := by
  unfold Text.isHex
  cases value : Text.hexDigit? c with
  | none =>
    rw [Text.digit?, value] at digit
    exact digit
  | some _ => rfl

theorem speltUpTo_drop_takeDigits (base limit : Nat) (text : List Char) :
    SpeltUpTo text (text.drop (takeDigits base limit text).length) := by
  have front : takeDigits base limit text <+: text :=
    (List.takeWhile_prefix _).trans (List.take_prefix limit text)
  refine ⟨takeDigits base limit text, (List.prefix_iff_eq_append.mp front).symm, ?_⟩
  intro c member
  have digit := List.all_eq_true.mp List.all_takeWhile c member
  rw [isAddressCharacter, isHex_of_digit? digit]
  rfl

theorem eq_cons_of_readCharacter? {c : Char} {text rest : List Char}
    (read : readCharacter? c text = some rest) : text = c :: rest := by
  cases text with
  | nil => cases read
  | cons head others =>
    simp only [readCharacter?] at read
    split at read
    · rename_i same
      cases read
      rw [same]
    · cases read

theorem speltUpTo_of_readCharacter? {c : Char} (written : isAddressCharacter c = true)
    {text rest : List Char} (read : readCharacter? c text = some rest) : SpeltUpTo text rest := by
  refine ⟨[c], eq_cons_of_readCharacter? read, fun other member => ?_⟩
  rw [List.mem_singleton.mp member]
  exact written

namespace Ipv4

theorem speltUpTo_of_readOctet? {text rest : List Char} {octet : UInt8}
    (read : readOctet? text = some (octet, rest)) : SpeltUpTo text rest := by
  simp only [readOctet?] at read
  split at read
  · cases read
  · cases read
    exact speltUpTo_drop_takeDigits 10 4 text

theorem speltUpTo_of_read? {text rest : List Char} {address : Ipv4}
    (read : read? text = some (address, rest)) : SpeltUpTo text rest := by
  simp only [read?, Option.bind_eq_bind, Option.bind_eq_some_iff, Prod.exists] at read
  rcases read with ⟨_, _, first, _, dot, _, _, second, _, dot', _, _, third, _, dot'', _, _,
    fourth, made⟩
  cases made
  have point : isAddressCharacter '.' = true := rfl
  exact (speltUpTo_of_readOctet? first).trans <|
    (speltUpTo_of_readCharacter? point dot).trans <|
    (speltUpTo_of_readOctet? second).trans <|
    (speltUpTo_of_readCharacter? point dot').trans <|
    (speltUpTo_of_readOctet? third).trans <|
    (speltUpTo_of_readCharacter? point dot'').trans (speltUpTo_of_readOctet? fourth)

end Ipv4

namespace Ipv6

theorem speltUpTo_of_readGroup? {text rest : List Char} {group : UInt16}
    (read : readGroup? text = some (group, rest)) : SpeltUpTo text rest := by
  simp only [readGroup?] at read
  split at read
  · cases read
  · cases read
    exact speltUpTo_drop_takeDigits 16 5 text

theorem speltUpTo_of_afterSeparator? {atStart : Bool} {text rest : List Char}
    (read : afterSeparator? atStart text = some rest) : SpeltUpTo text rest := by
  cases atStart with
  | true =>
    cases read
    exact .refl text
  | false => exact speltUpTo_of_readCharacter? rfl read

/-- By recursion on the room that is left, as groups are read. -/
theorem speltUpTo_readGroups (room : Nat) (atStart : Bool) (text : List Char) :
    SpeltUpTo text (readGroups room atStart text).rest := by
  induction room generalizing atStart text with
  | zero => exact .refl text
  | succ room inductionHypothesis =>
    rw [readGroups]
    split
    · exact .refl text
    · rename_i start separated
      have before := speltUpTo_of_afterSeparator? separated
      split
      · rename_i address rest embedded
        split at embedded
        · cases embedded
        · exact before.trans (Ipv4.speltUpTo_of_read? embedded)
      · split
        · exact .refl text
        · rename_i group rest read
          exact before.trans
            ((speltUpTo_of_readGroup? read).trans (inductionHypothesis false rest))

theorem speltUpTo_of_read? {text rest : List Char} {address : Ipv6}
    (read : read? text = some (address, rest)) : SpeltUpTo text rest := by
  have head := speltUpTo_readGroups 8 true text
  simp only [read?] at read
  split at read
  · rcases Option.map_eq_some_iff.mp read with ⟨_, _, made⟩
    cases made
    exact head
  · split at read
    · cases read
    · simp only [Option.bind_eq_bind, Option.bind_eq_some_iff, Option.map_eq_some_iff] at read
      rcases read with ⟨_, colon, between, colon', _, _, made⟩
      cases made
      exact head.trans <|
        (speltUpTo_of_readCharacter? rfl colon).trans <|
        (speltUpTo_of_readCharacter? rfl colon').trans (speltUpTo_readGroups _ true between)

end Ipv6
end ServiceBeacon
