import Pushdown.Text.CaseContext
import Pushdown.Text.CaseTable

/-!
Full case folding of text. A character may fold to several, and a capital sigma folds to its
final form at the end of a word.
-/
namespace Pushdown.Text

def upperChar (c : Char) : List Char :=
  match upperExpansions.lookup c.toNat with
  | some ns => ns.map Char.ofNat
  | none => [(shifted? upperShifts c).getD c]

def upperChars (cs : List Char) : List Char := cs.flatMap upperChar

def upper (s : String) : String := String.ofList (upperChars s.toList)

/-- The lower form of a character that does not depend on its neighbours. -/
def lowerChar (c : Char) : List Char :=
  if c = 'İ' then ['i', '\u0307'] else [(shifted? lowerShifts c).getD c]

/-- Whether the first character not looked past has case. -/
def startsCased (cs : List Char) : Bool :=
  match cs.find? (!isCaseIgnorable ·) with
  | some c => isCased c
  | none => false

/-- Folds the rest of a text; `afterCased` tells whether the last character not looked past
has case. -/
def lowerFrom (afterCased : Bool) : List Char → List Char
  | [] => []
  | c :: rest =>
    let image :=
      if c = 'Σ' then [if afterCased && !startsCased rest then 'ς' else 'σ'] else lowerChar c
    image ++ lowerFrom (if isCaseIgnorable c then afterCased else isCased c) rest

def lowerChars (cs : List Char) : List Char := lowerFrom false cs

def lower (s : String) : String := String.ofList (lowerChars s.toList)

@[simp] theorem upper_toList (s : String) : (upper s).toList = upperChars s.toList := by
  simp [upper]

@[simp] theorem lower_toList (s : String) : (lower s).toList = lowerChars s.toList := by
  simp [lower]

@[simp] theorem upperChars_append (a b : List Char) :
    upperChars (a ++ b) = upperChars a ++ upperChars b := by
  simp [upperChars]

theorem lowerChar_ne_nil (c : Char) : lowerChar c ≠ [] := by
  unfold lowerChar; split <;> simp

theorem lower_ne_empty {s : String} (h : s ≠ "") : lower s ≠ "" := by
  intro e
  have hl : lowerChars s.toList = [] := by
    simpa using congrArg String.toList e
  cases hs : s.toList with
  | nil => exact h (String.toList_inj.1 (by simp [hs]))
  | cons c rest =>
    rw [hs, lowerChars, lowerFrom] at hl
    simp only [List.append_eq_nil_iff] at hl
    have := hl.1
    split at this
    · simp at this
    · exact lowerChar_ne_nil c this

end Pushdown.Text
