import DocPages.Text.CodeRun

/-!
# White space

The Unicode property White_Space. It is wider than the class of core: it also holds the line and
paragraph separators, the vertical tab, the form feed, the next-line control and the wide spaces.
-/

namespace DocPages.Text

/-- White space among the ASCII characters: tab to carriage return, and the space. -/
def isAsciiBlank (c : Char) : Bool :=
  c == ' ' || (Nat.ble 9 c.toNat && Nat.ble c.toNat 13)

def blankRuns : List CodeRun :=
  [⟨133, 133, 1⟩, ⟨160, 160, 1⟩, ⟨5760, 5760, 1⟩, ⟨8192, 8202, 1⟩, ⟨8232, 8233, 1⟩,
   ⟨8239, 8239, 1⟩, ⟨8287, 8287, 1⟩, ⟨12288, 12288, 1⟩]

/-- The property White_Space. -/
def isBlank (c : Char) : Bool :=
  inClass isAsciiBlank blankRuns c

end DocPages.Text
