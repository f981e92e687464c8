import DocPages.Dialect.Basic
import DocPages.Proofs.Text.Percent

/-!
# Encoded header slugs

The slug of a header is its normalised text (`normalHeader`), percent-encoded. Decoding gives the bytes of
this text back, so headers share a slug just if their normalised texts are equal
(`localHref_azureDevOps`). Slugs can be written in two steps: as a path segment, in which colons stand for
themselves, and then with its colons encoded, which touches no byte that the first step has encoded
(`encodedSlug_eq_encodeColons`).
-/

namespace DocPages.Dialect

open Text

/-- A header in small letters, without white space around it and with hyphens for the rest of it. -/
def normalHeader (text : String) : String :=
  onChars (fun cs => hyphenate (trim (lowercase cs))) text

/-- A character that stands for itself in a slug. -/
def IsPlainInSlug (c : Char) : Prop :=
  c.isAlphanum = true ∨ c ∈ "-_.~$&+=@".toList

/-! ## Two steps -/

/-- Encodes the colons of a text that is encoded otherwise. -/
def encodeColons (cs : List Char) : List Char :=
  cs.flatMap fun c => if c = ':' then percentByte 58 else [c]

theorem encodeColons_eq_self {cs : List Char} (h : ':' ∉ cs) : encodeColons cs = cs := by
  induction cs with
  | nil => rfl
  | cons c cs ih =>
    rw [List.mem_cons, not_or] at h
    have hcs : encodeColons (c :: cs) = [c] ++ encodeColons cs := by
      unfold encodeColons
      rw [List.flatMap_cons, if_neg (Ne.symm h.1)]
    rw [hcs, ih h.2, List.singleton_append]

/-- Encoding the colons afterwards comes to the same as encoding them together with all else. -/
theorem encodedSlug_eq_encodeColons (text : List Char) :
    encodedSlug text =
      encodeColons (percentEncode isSegmentChar (hyphenate (trim (lowercase text)))) := by
  unfold encodedSlug
  generalize hyphenate (trim (lowercase text)) = cs
  induction cs with
  | nil => rfl
  | cons c cs ih =>
    have hstep (ds es : List Char) : encodeColons (ds ++ es) = encodeColons ds ++ encodeColons es :=
      List.flatMap_append
    rw [percentEncode_cons, percentEncode_cons, hstep, ← ih]
    congr 1
    by_cases hcolon : c = ':'
    · subst hcolon
      decide
    · by_cases hc : isSegmentChar c = true
      · have hkeep : (isSegmentChar c && c != ':') = true := by simp [hc, hcolon]
        rw [if_pos hkeep, if_pos hc, encodeColons_eq_self (by simpa using Ne.symm hcolon)]
      · have hkeep : ¬ (isSegmentChar c && c != ':') = true := by simp [hc]
        rw [if_neg hkeep, if_neg hc, encodeColons_eq_self]
        intro hmem
        obtain ⟨b, -, hb⟩ := List.mem_flatMap.1 hmem
        rcases mem_percentByte hb with hpercent | hdigit
        · exact absurd hpercent (by decide)
        · exact absurd hdigit (by decide)

/-! ## What slugs stand for -/

theorem localHref_azureDevOps_eq (text : String) :
    localHref .azureDevOps text = "#" ++ onChars encodedSlug text := rfl

theorem isPlainInSlug_of_kept {c : Char} (h : (isSegmentChar c && c != ':') = true) :
    IsPlainInSlug c := by
  simp only [isSegmentChar, Bool.and_eq_true, Bool.or_eq_true, bne_iff_ne, ne_eq,
    List.contains_iff_mem] at h
  obtain ⟨hletter | hmark, hcolon⟩ := h
  · exact Or.inl hletter
  · right
    have hall : ∀ d ∈ "-_.~$&+:=@".toList, d ≠ ':' → d ∈ "-_.~$&+=@".toList := by simp
    exact hall c hmark hcolon

/-- Reading a slug gives the bytes of the normalised header. -/
theorem percentDecode_encodedSlug (text : String) :
    (percentDecode (encodedSlug text.toList)).toByteArray = (normalHeader text).toUTF8 := by
  unfold encodedSlug
  rw [percentDecode_percentEncode (by decide), ← toByteArray_textBytes, normalHeader, toList_onChars]

/-- **Slugs are a faithful encoding of headers.** -/
theorem localHref_azureDevOps (text : String) :
    (∃ slug : String, localHref .azureDevOps text = "#" ++ slug ∧
      Encoded IsPlainInSlug slug.toList ∧
      (percentDecode slug.toList).toByteArray = (normalHeader text).toUTF8) ∧
    ∀ other : String, localHref .azureDevOps text = localHref .azureDevOps other ↔
      normalHeader text = normalHeader other := by
  refine ⟨⟨onChars encodedSlug text, rfl, ?_, ?_⟩, fun other => ⟨fun h => ?_, fun h => ?_⟩⟩
  · rw [toList_onChars]
    exact encoded_percentEncode (fun _ => isPlainInSlug_of_kept) _
  · rw [toList_onChars]
    exact percentDecode_encodedSlug text
  · have hslug : encodedSlug text.toList = encodedSlug other.toList := by
      have hlist := congrArg String.toList h
      simpa [localHref_azureDevOps_eq] using hlist
    have hbytes := percentDecode_encodedSlug text
    rw [hslug, percentDecode_encodedSlug, String.toUTF8_eq_toByteArray,
      String.toUTF8_eq_toByteArray, String.toByteArray_inj] at hbytes
    exact hbytes.symm
  · have hchars := congrArg String.toList h
    rw [normalHeader, normalHeader, toList_onChars, toList_onChars] at hchars
    rw [localHref_azureDevOps_eq, localHref_azureDevOps_eq, onChars, onChars, encodedSlug, encodedSlug,
      hchars]

-- a percent sign is encoded itself, and a no-break space is white space as any other
example : localHref .azureDevOps "  50%:\u00a0É" = "#50%25%3A-%C3%A9" := by decide +kernel

end DocPages.Dialect
