import SqlFilter.Json.Printer
import SqlFilter.Json.Reader

/-!
# Strings are read back

A string is read back from its quoted form, whatever characters it has and whatever text follows
(`Json.readString_quoted`). One written character, escaped or not, is one step of the reader
(`Json.readString_escapeChar`); the rest is an induction over the string.
-/

namespace SqlFilter

namespace Json

/-! ### Hexadecimal digits -/

theorem hexValue?_hexChar (n : Nat) : hexValue? (hexChar n) = some (n % 16) := by
  have all : ∀ d : Fin 16, hexValue? (Nat.digitChar d) = some d.val := by decide
  exact all ⟨n % 16, Nat.mod_lt n (by decide)⟩

theorem utf8Size_hexChar (n : Nat) : (hexChar n).utf8Size = 1 := by
  have all : ∀ d : Fin 16, (Nat.digitChar d).utf8Size = 1 := by decide
  exact all ⟨n % 16, Nat.mod_lt n (by decide)⟩

/-- The four digits that write a control character. -/
theorem readHex_control {n : Nat} (h : n < 32) (rest : List Char) :
    readHex ('0' :: '0' :: hexChar (n / 16) :: hexChar n :: rest) = .ok (n, rest) := by
  have zero : hexValue? '0' = some 0 := by decide
  have whole : ((0 * 16 + 0) * 16 + n / 16 % 16) * 16 + n % 16 = n := by omega
  -- each digit is one octet
  have four : ¬ octets ['0', '0', hexChar (n / 16), hexChar n] < 4 := by
    have one : "0".utf8ByteSize = 1 := by decide
    simp [octets, utf8Size_hexChar, one]
  rw [readHex]
  refine (if_neg four).trans ?_
  simp only [zero, hexValue?_hexChar, whole]

/-! ### One character -/

theorem readEscape_control {c : Char} (h : c.toNat < 32) (rest : List Char) :
    readEscape ('u' :: '0' :: '0' :: hexChar (c.toNat / 16) :: hexChar c.toNat :: rest)
      = .ok (c, rest) := by
  -- surrogates lie far above the control characters
  have noTrailing : isTrailing c.toNat = false := by
    simp [isTrailing]
    omega
  have noLeading : isLeading c.toNat = false := by
    simp [isLeading]
    omega
  rw [readEscape, readHex_control h]
  simp [bind, Except.bind, noTrailing, noLeading]

/-- An escape adds the character it writes. -/
theorem readString_escape {cs rest : List Char} {c : Char} (h : readEscape cs = .ok (c, rest))
    (read : List Char) : readString read ('\\' :: cs) = readString (c :: read) rest := by
  rw [readString]
  split
  · next failed =>
    rw [h] at failed
    cases failed
  · next done =>
    rw [h] at done
    cases done
    rfl

/-- **A written character is read back**, and nothing behind it. -/
theorem readString_escapeChar (read : List Char) (c : Char) (rest : List Char) :
    readString read (escapeChar c ++ rest) = readString (c :: read) rest := by
  unfold escapeChar
  -- the quote, the backslash and the five control characters that have a letter
  iterate 7
    split
    · next h =>
      subst h
      exact readString_escape rfl read
  split
  · next control => exact readString_escape (readEscape_control control rest) read
  · next quote backslash _ _ _ _ _ printable =>
    rw [List.singleton_append, readString.eq_def]
    split
    · next h => cases h
    · next h => exact absurd (List.cons.inj h).1 quote
    · next h => exact absurd (List.cons.inj h).1 backslash
    · next h =>
      obtain ⟨rfl, rfl⟩ := List.cons.inj h
      rw [if_neg printable]

/-! ### Whole strings -/

/-- What is left of a string is read back up to its closing quote. -/
theorem readString_foldr (read cs tail : List Char) :
    readString read (cs.foldr (fun c rest => escapeChar c ++ rest) ('"' :: tail))
      = .ok (String.ofList (read.reverse ++ cs), tail) := by
  induction cs generalizing read with
  | nil =>
    rw [List.foldr_nil, readString, List.append_nil]
  | cons c cs ih =>
    rw [List.foldr_cons, readString_escapeChar, ih, List.reverse_cons, List.append_assoc,
      List.singleton_append]

/-- **A string is read back** from its quoted form. -/
theorem readString_quoted (s : String) (tail : List Char) :
    readString [] (s.toList.foldr (fun c rest => escapeChar c ++ rest) ('"' :: tail))
      = .ok (s, tail) := by
  rw [readString_foldr, List.reverse_nil, List.nil_append, String.ofList_toList]

end Json

end SqlFilter
