/-!
# Runs of code points

A character class is a list of runs: the code points from `first` to `last` in steps of `step`. Steps
of two describe the blocks in which capital and small letters alternate.
-/

namespace DocPages.Text

/-- The code points `first`, `first + step`, … up to `last`. -/
structure CodeRun where
  first : Nat
  last : Nat
  step : Nat

/-- Membership of a code point in a run. -/
def CodeRun.has (r : CodeRun) (n : Nat) : Bool :=
  Nat.ble r.first n && Nat.ble n r.last && (n - r.first) % r.step == 0

/-- Membership of a code point in one of several runs. -/
def inRuns (runs : List CodeRun) (n : Nat) : Bool :=
  runs.any (·.has n)

/-- A character class given by its ASCII part and the runs of its other members. -/
def inClass (ascii : Char → Bool) (runs : List CodeRun) (c : Char) : Bool :=
  if c.toNat < 128 then ascii c else inRuns runs c.toNat

theorem inClass_of_ascii {ascii : Char → Bool} {runs : List CodeRun} {c : Char}
    (h : c.toNat < 128) : inClass ascii runs c = ascii c := by
  simp [inClass, h]

/-- The code points of a run, each moved by the same distance: a block of case mappings. -/
structure CaseRun where
  first : Nat
  last : Nat
  step : Nat
  shift : Int

/-- The image of a code point under the first run that holds it. -/
def shiftBy (runs : List CaseRun) (n : Nat) : Option Nat :=
  (runs.find? fun r => (CodeRun.mk r.first r.last r.step).has n).map
    fun r => (Int.ofNat n + r.shift).toNat

end DocPages.Text
