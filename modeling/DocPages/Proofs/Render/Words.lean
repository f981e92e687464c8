import DocPages.Proofs.Source.ReadBack
import DocPages.Proofs.Template.Writing
import DocPages.Render.Renderer

/-!
# Machine words

Templates pass numbers and positions on as arguments, and arguments are machine words. The way in which
arguments are read is a parameter of what a page is made of (`Reading`).

1. A number is read if it is a machine word (`count_words_eq`), and so is a location if all of its
   positions are (`place_words_eq`).
2. What is written with words is what is written with exact numbers, or a failure (`Agree`). Agreement is
   kept by putting steps and texts together (`Agree.bind`, `agree_concat`).
-/

namespace DocPages

open Template Render

/-! ## Values that fit -/

/-- All positions are machine words. -/
def Location.Fits (l : Location) : Prop :=
  l.start.Fits ∧ l.stop.Fits

instance (l : Location) : Decidable l.Fits :=
  inferInstanceAs (Decidable (_ ∧ _))

/-! ## Reading back -/

namespace Source.Position

theorem ofData?_toValue (p : Source.Position) :
    ofData? true p.toValue.toData = if p.Fits then some p else none := by
  have hfields : p.toValue.toData.fields? true ["line", "col"] =
      some [some (.int p.line), some (.int p.col)] := rfl
  rw [ofData?_of_fields? hfields, Data.nat?_int, Data.nat?_int]
  by_cases hline : p.line < Data.wordSize <;> by_cases hcol : p.col < Data.wordSize <;>
    simp [Fits, hline, hcol]

end Source.Position

namespace Repo

theorem ofData?_toValue (r : Repo) : ofData? true r.toValue.toData = some r :=
  rfl

/-- A repository that may be missing, as data. -/
def optionData (r : Option Repo) : Data :=
  match r with
  | some r => r.toValue.toData
  | none => .null

theorem optional?_optionData (r : Option Repo) :
    Data.optional? (ofData? true) (optionData r) = some r := by
  cases r with
  | none => rfl
  | some r =>
    show (ofData? true r.toValue.toData).map some = some (some r)
    rw [ofData?_toValue]
    rfl

end Repo

namespace Location

theorem ofData?_of_fields? {v start stop repo : Data} {filepath workDir : String}
    (hlist : v.isShortList 5 = false)
    (h : v.fields? true ["start", "end", "filepath", "work_dir", "repo"] =
      some [some start, some stop, some (.text filepath), some (.text workDir), some repo]) :
    ofData? true v = (do
      let start ← Source.Position.ofData? true start
      let stop ← Source.Position.ofData? true stop
      let repo ← Data.optional? (Repo.ofData? true) repo
      return ⟨start, stop, filepath, workDir, repo⟩) := by
  unfold ofData?
  rw [h, hlist]
  rfl

/-- A location is read back if its positions consist of machine words. -/
theorem ofData?_toValue (l : Location) :
    ofData? true l.toValue.toData = if l.Fits then some l else none := by
  have hfields : l.toValue.toData.fields? true ["start", "end", "filepath", "work_dir", "repo"] =
      some [some l.start.toValue.toData, some l.stop.toValue.toData, some (.text l.filepath),
        some (.text l.workDir), some (Repo.optionData l.repo)] := by
    cases h : l.repo <;> simp only [toValue, h] <;> rfl
  rw [ofData?_of_fields? rfl hfields, Source.Position.ofData?_toValue,
    Source.Position.ofData?_toValue, Repo.optional?_optionData]
  by_cases hstart : l.start.Fits <;> by_cases hstop : l.stop.Fits <;> simp [Fits, hstart, hstop]

end Location

namespace Render

/-! ## Reading arguments -/

/-- How the numbers and locations of a page are read when they are arguments. -/
structure Reading where
  count : ℕ → Except Error ℕ
  place : Location → Except Error Location

/-- Everything is taken as it is. -/
def Reading.exact : Reading :=
  ⟨.ok, .ok⟩

/-- Numbers and positions are machine words. -/
def Reading.words : Reading :=
  ⟨fun n => countArgument (some (.int n)), fun l => locationArgument (some l.toValue)⟩

theorem count_words (n : ℕ) : Reading.words.count n = countArgument (some (.int n)) := by
  simp only [Reading.words]

theorem count_words_eq (n : ℕ) :
    Reading.words.count n = if n < Data.wordSize then .ok n else fail .invalidOperation := by
  simp only [count_words, countArgument, Value.int?, Int.natCast_nonneg, true_and, Int.ofNat_lt,
    Int.toNat_natCast]

theorem place_words (l : Location) : Reading.words.place l = locationArgument (some l.toValue) := by
  simp only [Reading.words]

theorem locationArgument_of_some {v : Value} {l : Location}
    (h : Location.ofData? true v.toData = some l) : locationArgument (some v) = .ok l := by
  simp only [locationArgument, h]

theorem locationArgument_of_none {v : Value} (h : Location.ofData? true v.toData = none) :
    locationArgument (some v) = fail .cannotDeserialize := by
  simp only [locationArgument, h]

theorem place_words_eq (l : Location) :
    Reading.words.place l = if l.Fits then .ok l else fail .cannotDeserialize := by
  have hread := l.ofData?_toValue
  by_cases h : l.Fits
  · rw [if_pos h] at hread
    rw [if_pos h, place_words, locationArgument_of_some hread]
  · rw [if_neg h] at hread
    rw [if_neg h, place_words, locationArgument_of_none hread]

/-! ## Agreement -/

section

variable {ε α β : Type} {fit : Prop}

/-- The first outcome is the second one or a failure, and it is the second one if things fit. -/
def Agree (fit : Prop) (r m : Except ε α) : Prop :=
  (fit → r = m) ∧ ∀ a, r = .ok a → m = .ok a

theorem Agree.refl (r : Except ε α) : Agree fit r r :=
  ⟨fun _ => rfl, fun _ h => h⟩

theorem Agree.bind {r m : Except ε α} {f g : α → Except ε β} (h : Agree fit r m)
    (hfg : ∀ a, Agree fit (f a) (g a)) : Agree fit (r >>= f) (m >>= g) := by
  refine ⟨fun hfit => ?_, fun b hb => ?_⟩
  · rw [h.1 hfit]
    exact congrArg (m >>= ·) (funext fun a => (hfg a).1 hfit)
  · cases r with
    | error e => cases hb
    | ok a =>
      rw [h.2 a rfl]
      exact (hfg a).2 b hb

theorem agree_concat {xs : List α} {f g : α → Except ε String}
    (h : ∀ x ∈ xs, Agree fit (f x) (g x)) : Agree fit (concat (xs.map f)) (concat (xs.map g)) := by
  induction xs with
  | nil => exact Agree.refl _
  | cons x xs ih =>
    obtain ⟨hx, hxs⟩ := List.forall_mem_cons.1 h
    exact hx.bind fun _ => (ih hxs).bind fun _ => Agree.refl _

/-- A check agrees with no check. -/
theorem agree_check {p : Prop} [Decidable p] (h : fit → p) (a : α) (kind : ErrorKind) :
    Agree fit (if p then .ok a else fail kind) (.ok a) := by
  refine ⟨fun hfit => if_pos (h hfit), fun b hb => ?_⟩
  by_cases hp : p
  · rwa [if_pos hp] at hb
  · rw [if_neg hp] at hb
    cases hb

theorem agree_count {n : ℕ} (h : fit → n < Data.wordSize) :
    Agree fit (Reading.words.count n) (Reading.exact.count n) := by
  rw [count_words_eq]
  exact agree_check h n _

theorem agree_place {l : Location} (h : fit → l.Fits) :
    Agree fit (Reading.words.place l) (Reading.exact.place l) := by
  rw [place_words_eq]
  exact agree_check h l _

end

end Render

end DocPages
