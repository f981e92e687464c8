import DocPages.Data.Value
import DocPages.Proofs.Text.Lines
import DocPages.Text.Percent

/-!
# Percent-decoding

A reader takes a percent sign and two hexadecimal digits for a byte, and every other character for its
UTF-8 bytes (`percentDecode`). It recovers the bytes of an encoded text if the percent sign is not among
the characters to keep (`percentDecode_percentEncode`). What the encoding writes are the characters to keep
and triples with capital digits (`encoded_percentEncode`), so a separator that is kept splits the encoded
text where it splits the text (`splitBy_percentEncode`).
-/

namespace DocPages.Text

/-- The UTF-8 bytes of a text. -/
def textBytes (cs : List Char) : List UInt8 :=
  cs.flatMap String.utf8EncodeChar

/-- The bytes that a percent-encoded text stands for. A percent sign without two digits after it is a
character like any other. -/
def percentDecode : List Char → List UInt8
  | '%' :: a :: b :: cs =>
    match Data.digits? 16 [a, b] with
    | some n => UInt8.ofNat n :: percentDecode cs
    | none => String.utf8EncodeChar '%' ++ percentDecode (a :: b :: cs)
  | c :: cs => String.utf8EncodeChar c ++ percentDecode cs
  | [] => []

/-- The digits of encoded bytes. -/
def capitalHexDigits : List Char :=
  "0123456789ABCDEF".toList

/-- A text of characters that satisfy `p` and of percent signs with two capital hexadecimal digits. -/
inductive Encoded (p : Char → Prop) : List Char → Prop
  | nil : Encoded p []
  | char {c : Char} {cs : List Char} : p c → Encoded p cs → Encoded p (c :: cs)
  | triple {a b : Char} {cs : List Char} : a ∈ capitalHexDigits → b ∈ capitalHexDigits →
      Encoded p cs → Encoded p ('%' :: a :: b :: cs)

theorem toByteArray_textBytes (s : String) : (textBytes s.toList).toByteArray = s.toUTF8 := by
  rw [String.toUTF8_eq_toByteArray, ← String.utf8Encode_toList]
  rfl

/-! ## One byte -/

theorem hexDigit_mem {n : ℕ} (h : n < 16) : hexDigit n ∈ capitalHexDigits := by
  have hall : ∀ n < 16, hexDigit n ∈ capitalHexDigits := by decide
  exact hall n h

theorem digits?_hexDigits (b : UInt8) :
    Data.digits? 16 [hexDigit (b.toNat / 16), hexDigit (b.toNat % 16)] = some b.toNat := by
  have hall : ∀ n < 256, Data.digits? 16 [hexDigit (n / 16), hexDigit (n % 16)] = some n := by
    decide +kernel
  exact hall b.toNat b.toNat_lt_size

theorem percentDecode_percentByte (b : UInt8) (cs : List Char) :
    percentDecode (percentByte b ++ cs) = b :: percentDecode cs := by
  show percentDecode ('%' :: hexDigit (b.toNat / 16) :: hexDigit (b.toNat % 16) :: cs) = _
  rw [percentDecode, digits?_hexDigits]
  simp

theorem mem_percentByte {b : UInt8} {c : Char} (h : c ∈ percentByte b) :
    c = '%' ∨ c ∈ capitalHexDigits := by
  have hbound : b.toNat < 256 := b.toNat_lt_size
  simp only [percentByte, List.mem_cons, List.not_mem_nil, or_false] at h
  rcases h with rfl | rfl | rfl
  · exact Or.inl rfl
  · exact Or.inr (hexDigit_mem (by omega))
  · exact Or.inr (hexDigit_mem (by omega))

/-! ## Texts -/

theorem percentDecode_cons {c : Char} (h : c ≠ '%') (cs : List Char) :
    percentDecode (c :: cs) = String.utf8EncodeChar c ++ percentDecode cs := by
  rw [percentDecode]
  rintro a b ds rfl
  exact absurd rfl h

theorem percentDecode_append_bytes (bs : List UInt8) (cs : List Char) :
    percentDecode (bs.flatMap percentByte ++ cs) = bs ++ percentDecode cs := by
  induction bs with
  | nil => rfl
  | cons b bs ih =>
    rw [List.flatMap_cons, List.append_assoc, percentDecode_percentByte, ih, List.cons_append]

section Encode

variable {keep : Char → Bool}

theorem percentEncode_cons (c : Char) (cs : List Char) :
    percentEncode keep (c :: cs) =
      (if keep c then [c] else (String.utf8EncodeChar c).flatMap percentByte) ++
        percentEncode keep cs := rfl

theorem percentEncode_append (cs ds : List Char) :
    percentEncode keep (cs ++ ds) = percentEncode keep cs ++ percentEncode keep ds :=
  List.flatMap_append

theorem percentEncode_eq_self {cs : List Char} (h : ∀ c ∈ cs, keep c = true) :
    percentEncode keep cs = cs := by
  induction cs with
  | nil => rfl
  | cons c cs ih =>
    rw [List.forall_mem_cons] at h
    rw [percentEncode_cons, if_pos h.1, ih h.2, List.singleton_append]

/-- **Decoding undoes encoding.** -/
theorem percentDecode_percentEncode (hpercent : keep '%' = false) (cs : List Char) :
    percentDecode (percentEncode keep cs) = textBytes cs := by
  unfold textBytes
  induction cs with
  | nil => rfl
  | cons c cs ih =>
    rw [percentEncode_cons, List.flatMap_cons, ← ih]
    split_ifs with hc
    · have hne : c ≠ '%' := by
        rintro rfl
        rw [hpercent] at hc
        cases hc
      exact percentDecode_cons hne _
    · exact percentDecode_append_bytes _ _

theorem percentDecode_of_notMem {cs : List Char} (h : '%' ∉ cs) : percentDecode cs = textBytes cs := by
  have hself : percentEncode (· != '%') cs = cs := by
    apply percentEncode_eq_self
    intro c hc
    rw [bne_iff_ne]
    rintro rfl
    exact h hc
  rw [← hself, percentDecode_percentEncode (by decide), hself]

theorem mem_percentEncode {cs : List Char} {c : Char} (h : c ∈ percentEncode keep cs) :
    c ∈ cs ∨ c = '%' ∨ c ∈ capitalHexDigits := by
  obtain ⟨d, hd, hc⟩ := List.mem_flatMap.1 h
  split_ifs at hc
  · rw [List.mem_singleton] at hc
    subst hc
    exact Or.inl hd
  · obtain ⟨b, -, hb⟩ := List.mem_flatMap.1 hc
    exact Or.inr (mem_percentByte hb)

theorem Encoded.bytes_append {p : Char → Prop} (bs : List UInt8) {cs : List Char}
    (h : Encoded p cs) : Encoded p (bs.flatMap percentByte ++ cs) := by
  induction bs with
  | nil => exact h
  | cons b bs ih =>
    have hbound : b.toNat < 256 := b.toNat_lt_size
    exact .triple (hexDigit_mem (by omega)) (hexDigit_mem (by omega)) ih

theorem encoded_percentEncode {p : Char → Prop} (h : ∀ c, keep c = true → p c) (cs : List Char) :
    Encoded p (percentEncode keep cs) := by
  induction cs with
  | nil => exact .nil
  | cons c cs ih =>
    rw [percentEncode_cons]
    split_ifs with hc
    · exact .char (h c hc) ih
    · exact ih.bytes_append _

/-! ## Separators -/

variable {sep : Char} (hkeep : keep sep = true) (hpercent : sep ≠ '%')
  (hdigit : sep ∉ capitalHexDigits)

include hkeep in
theorem percentEncode_intercalate (pieces : List (List Char)) :
    percentEncode keep ([sep].intercalate pieces) =
      [sep].intercalate (pieces.map (percentEncode keep)) := by
  induction pieces with
  | nil => rfl
  | cons piece pieces ih =>
    cases pieces with
    | nil => simp
    | cons next pieces =>
      have hsep : percentEncode keep [sep] = [sep] := percentEncode_eq_self (by simpa using hkeep)
      rw [List.intercalate_cons_cons, percentEncode_append, percentEncode_append, hsep, ih,
        List.map_cons, List.map_cons, List.map_cons, List.intercalate_cons_cons]

include hpercent hdigit in
theorem notMem_percentEncode {cs : List Char} (h : sep ∉ cs) : sep ∉ percentEncode keep cs := by
  intro hmem
  rcases mem_percentEncode hmem with hcs | heq | hhex
  · exact h hcs
  · exact hpercent heq
  · exact hdigit hhex

include hkeep hpercent hdigit

/-- A separator that is kept splits the encoded text where it splits the text. -/
theorem splitBy_percentEncode (cs : List Char) :
    splitBy (· == sep) (percentEncode keep cs) =
      (splitBy (· == sep) cs).map (percentEncode keep) := by
  rw [splitBy_eq_splitOnP, splitBy_eq_splitOnP]
  have hnone : ∀ piece ∈ (cs.splitOn sep).map (percentEncode keep), sep ∉ piece := by
    intro piece hpiece
    obtain ⟨part, hpart, rfl⟩ := List.mem_map.1 hpiece
    apply notMem_percentEncode hpercent hdigit
    intro hmem
    exact absurd (of_mem_splitOnP hpart sep hmem).2 (by simp)
  have hne : (cs.splitOn sep).map (percentEncode keep) ≠ [] := by
    rw [ne_eq, List.map_eq_nil_iff]
    exact List.splitOnP_ne_nil (· == sep) cs
  have hsplit := List.splitOn_intercalate sep hnone hne
  rw [← percentEncode_intercalate hkeep, List.intercalate_splitOn] at hsplit
  exact hsplit

theorem splitOnce_percentEncode (cs : List Char) :
    splitOnce sep (percentEncode keep cs) =
      (splitOnce sep cs).map (Prod.map (percentEncode keep) (percentEncode keep)) := by
  by_cases hmem : sep ∈ cs
  · obtain ⟨before, after, rfl, hbefore⟩ := List.eq_append_cons_of_mem hmem
    have hsep : percentEncode keep (sep :: after) = sep :: percentEncode keep after := by
      rw [percentEncode_cons, if_pos hkeep, List.singleton_append]
    rw [splitOnce_append hbefore, percentEncode_append, hsep,
      splitOnce_append (notMem_percentEncode hpercent hdigit hbefore)]
    rfl
  · rw [splitOnce_eq_none hmem, splitOnce_eq_none (notMem_percentEncode hpercent hdigit hmem)]
    rfl

end Encode

end DocPages.Text
