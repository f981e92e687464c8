import DocPages.Proofs.Text.Percent

/-!
# Queries

The parameters of a query stand between ampersands, and each has a name before its first equals sign and a
value after it, both percent-encoded (`readQuery`). An encoding that keeps both separators leaves the
structure of what it encodes to be read: an encoded text is read as the parameters that the text itself
is written as (`readQuery_percentEncode`). Texts without the signs of queries are read as they are
written (`readQuery_writePairs`).
-/

namespace DocPages.Text

/-- A parameter of a query: the bytes of its name, and those of its value if it has an equals sign. -/
structure Parameter where
  name : ByteArray
  value : Option ByteArray

namespace Parameter

/-- The parameter that is written as `part`, where `decode` reads names and values. -/
def readWith (decode : List Char → List UInt8) (part : List Char) : Parameter :=
  match splitOnce '=' part with
  | some (name, value) => ⟨(decode name).toByteArray, some (decode value).toByteArray⟩
  | none => ⟨(decode part).toByteArray, none⟩

/-- The parameter that a percent-encoded text is read as. -/
def read (part : List Char) : Parameter :=
  readWith percentDecode part

/-- The parameter that a text is written as. -/
def ofText (part : List Char) : Parameter :=
  readWith textBytes part

/-- The parameter of some name and value. -/
def ofPair (p : String × String) : Parameter :=
  ⟨p.1.toUTF8, some p.2.toUTF8⟩

theorem ofText_append_equals {name : String} (h : '=' ∉ name.toList) (value : String) :
    ofText (name.toList ++ '=' :: value.toList) = ofPair (name, value) := by
  unfold ofText readWith ofPair
  rw [splitOnce_append h]
  simp only [toByteArray_textBytes]

/-- Without percent signs there is nothing to decode. -/
theorem read_of_notMem {part : List Char} (h : '%' ∉ part) : read part = ofText part := by
  unfold read ofText readWith
  cases hsplit : splitOnce '=' part with
  | none => simp only [percentDecode_of_notMem h]
  | some sides =>
    obtain ⟨name, value⟩ := sides
    rw [eq_append_of_splitOnce hsplit] at h
    simp only [List.mem_append, List.mem_cons, not_or] at h
    simp only [percentDecode_of_notMem h.1, percentDecode_of_notMem h.2.2]

/-- An encoded text is read as what the text is written as. -/
theorem read_percentEncode {keep : Char → Bool} (hpercent : keep '%' = false)
    (hequals : keep '=' = true) (part : List Char) :
    read (percentEncode keep part) = ofText part := by
  unfold read ofText readWith
  rw [splitOnce_percentEncode hequals (by decide) (by decide)]
  cases splitOnce '=' part with
  | none => simp only [Option.map_none, percentDecode_percentEncode hpercent]
  | some sides => simp only [Option.map_some, Prod.map, percentDecode_percentEncode hpercent]

end Parameter

/-- The parameters of a query. -/
def readQuery (query : List Char) : List Parameter :=
  (splitBy (· == '&') query).map .read

theorem readQuery_append_ampersand (query rest : List Char) :
    readQuery (query ++ '&' :: rest) = readQuery query ++ readQuery rest := by
  unfold readQuery
  rw [splitBy_eq_splitOnP, splitBy_eq_splitOnP, splitBy_eq_splitOnP,
    List.splitOnP_append_cons query rest (by decide), List.map_append]

theorem readQuery_percentEncode {keep : Char → Bool} (hpercent : keep '%' = false)
    (hampersand : keep '&' = true) (hequals : keep '=' = true) (cs : List Char) :
    readQuery (percentEncode keep cs) = (splitBy (· == '&') cs).map .ofText := by
  unfold readQuery
  rw [splitBy_percentEncode hampersand (by decide) (by decide), List.map_map]
  apply List.map_congr_left
  intro part _
  exact Parameter.read_percentEncode hpercent hequals part

/-! ## Texts that need no encoding -/

/-- A text without the signs that have a meaning in queries. -/
def IsUnreserved (s : String) : Prop :=
  ∀ c ∈ s.toList, c ∉ "%&=".toList

instance : DecidablePred IsUnreserved := fun s =>
  List.decidableBAll (· ∉ "%&=".toList) s.toList

/-- Parameters as they are written in a query. -/
def writePairs (pairs : List (String × String)) : List Char :=
  ['&'].intercalate (pairs.map fun p => p.1.toList ++ '=' :: p.2.toList)

theorem isUnreserved_of_forall {p : Char → Bool} (hp : ∀ c ∈ "%&=".toList, p c = false)
    {s : String} (h : ∀ c ∈ s.toList, p c = true) : IsUnreserved s := by
  intro c hc hsign
  have hyes := h c hc
  rw [hp c hsign] at hyes
  cases hyes

theorem IsUnreserved.append {s t : String} (hs : IsUnreserved s) (ht : IsUnreserved t) :
    IsUnreserved (s ++ t) := by
  intro c hc
  rw [String.toList_append, List.mem_append] at hc
  rcases hc with hc | hc
  · exact hs c hc
  · exact ht c hc

section Pairs

variable {name value : String} (hname : IsUnreserved name) (hvalue : IsUnreserved value)
include hname hvalue

theorem notMem_pair {c : Char} (hc : c ∈ "%&".toList) :
    c ∉ name.toList ++ '=' :: value.toList := by
  have hsign : c ∈ "%&=".toList := by
    revert c
    simp
  have hne : c ≠ '=' := by
    rintro rfl
    exact absurd hc (by decide)
  simp only [List.mem_append, List.mem_cons, not_or]
  exact ⟨fun h => hname c h hsign, hne, fun h => hvalue c h hsign⟩

theorem readQuery_pair :
    readQuery (name.toList ++ '=' :: value.toList) = [.ofPair (name, value)] := by
  have hequals : '=' ∉ name.toList := fun h => hname '=' h (by decide)
  have hone : ∀ c ∈ name.toList ++ '=' :: value.toList, (c == '&') = false := by
    intro c hc
    rw [beq_eq_false_iff_ne]
    rintro rfl
    exact notMem_pair hname hvalue (by decide) hc
  unfold readQuery
  rw [splitBy_eq_splitOnP, List.splitOnP_eq_singleton hone, List.map_singleton,
    Parameter.read_of_notMem (notMem_pair hname hvalue (by decide)),
    Parameter.ofText_append_equals hequals]

end Pairs

theorem readQuery_writePairs {pairs : List (String × String)} (hne : pairs ≠ [])
    (h : ∀ p ∈ pairs, IsUnreserved p.1 ∧ IsUnreserved p.2) :
    readQuery (writePairs pairs) = pairs.map .ofPair := by
  induction pairs with
  | nil => exact absurd rfl hne
  | cons p pairs ih =>
    rw [List.forall_mem_cons] at h
    have hp := readQuery_pair h.1.1 h.1.2
    cases pairs with
    | nil => simpa [writePairs] using hp
    | cons q pairs =>
      have hwrite : writePairs (p :: q :: pairs) =
          (p.1.toList ++ '=' :: p.2.toList) ++ '&' :: writePairs (q :: pairs) := by
        unfold writePairs
        rw [List.map_cons, List.map_cons, List.intercalate_cons_cons, List.append_assoc]
        rfl
      rw [hwrite, readQuery_append_ampersand, hp, ih (List.cons_ne_nil q pairs) h.2]
      rfl

end DocPages.Text
