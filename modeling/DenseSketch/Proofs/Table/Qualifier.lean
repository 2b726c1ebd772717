import DenseSketch.Board

/-!
# Qualifiers of flash tables

Behind the name and the brackets of a flash table its declaration has the qualifier of the board.  A
board may give any text for it, and the text is put there as it is.  This file says which texts are
qualifiers: lists of words on one line, each word perhaps with arguments in parentheses, as
attributes and macros have them.  A text of another form, such as an initializer with a declaration
behind it, makes the line declare something of its own.
-/

namespace DenseSketch.Table

/-- What stands behind the brackets: the qualifier and a blank in front of it, or nothing. -/
def qualifierText (qualifier : Document) : String :=
  if qualifier.isTruthy then " " ++ qualifier.shown else ""

def startsWord (c : Char) : Bool := c.isAlpha || c == '_'

def continuesWord (c : Char) : Bool := c.isAlphanum || c == '_'

def isWord (cs : List Char) : Bool := cs.head?.any startsWord && cs.all continuesWord

theorem isWord_append {cs ds : List Char} (hcs : isWord cs) (hds : ds.all continuesWord) :
    isWord (cs ++ ds) := by
  cases cs with
  | nil => cases hcs
  | cons c cs =>
    rw [isWord, Bool.and_eq_true] at hcs ⊢
    rw [List.all_append, hcs.2, hds]
    exact ⟨hcs.1, rfl⟩

/-- Where a reader stands in a list of words. -/
inductive QualifierState where
  | between
  | word
  /-- Among the arguments of a word, within so many parentheses of theirs. -/
  | arguments (depth : Nat)
  /-- In a text among the arguments. -/
  | quoted (depth : Nat)
  | behind

namespace QualifierState

/-- Where the reader stands behind one more character, if the character has a place there. -/
def next : QualifierState → Char → Option QualifierState
  | .between, c => if c == ' ' then some .between else if startsWord c then some .word else none
  | .word, c =>
    if c == ' ' then some .between
    else if c == '(' then some (.arguments 0)
    else if continuesWord c then some .word
    else none
  | .arguments depth, c =>
    if c == '(' then some (.arguments (depth + 1))
    else if c == ')' then
      match depth with
      | 0 => some .behind
      | outer + 1 => some (.arguments outer)
    else if c == '"' then some (.quoted depth)
    else if c == ' ' || c == ',' || continuesWord c then some (.arguments depth)
    else none
  | .quoted depth, c =>
    if c == '"' then some (.arguments depth)
    else if c == '\\' || c == '\n' || c == '\r' then none
    else some (.quoted depth)
  | .behind, c => if c == ' ' then some .between else none

/-- All parentheses and quotes are closed. -/
def isComplete : QualifierState → Bool
  | .between | .word | .behind => true
  | .arguments _ | .quoted _ => false

/-- A line break has no place anywhere. -/
theorem next_break (state : QualifierState) : state.next '\n' = none := by
  cases state <;> rfl

theorem not_mem_of_foldlM {cs : List Char} {state final : QualifierState}
    (h : cs.foldlM next state = some final) : '\n' ∉ cs := by
  induction cs generalizing state with
  | nil => exact List.not_mem_nil
  | cons c cs ih =>
    rw [List.foldlM_cons, Option.bind_eq_bind, Option.bind_eq_some_iff] at h
    obtain ⟨after, hnext, hrest⟩ := h
    rw [List.mem_cons]
    rintro (rfl | hmem)
    · rw [next_break] at hnext
      cases hnext
    · exact ih hrest hmem

end QualifierState

/-- Is the text a list of words, each perhaps with arguments? -/
def isQualifier (cs : List Char) : Bool :=
  (cs.foldlM QualifierState.next .between).any QualifierState.isComplete

/-- Is what the board gives a qualifier, or nothing? -/
def IsQualifying (qualifier : Document) : Prop :=
  isQualifier (qualifierText qualifier).toList = true

instance (qualifier : Document) : Decidable (IsQualifying qualifier) :=
  inferInstanceAs (Decidable (_ = _))

theorem IsQualifying.no_break {qualifier : Document} (h : IsQualifying qualifier) :
    '\n' ∉ (qualifierText qualifier).toList := by
  rw [IsQualifying, isQualifier, Option.any_eq_true] at h
  obtain ⟨final, hfinal, -⟩ := h
  exact QualifierState.not_mem_of_foldlM hfinal

theorem no_break_qualifierText {qualifier : Document} (h : '\n' ∉ qualifier.shown.toList) :
    '\n' ∉ (qualifierText qualifier).toList := by
  unfold qualifierText
  split
  · simpa using h
  · simp

/-- The registered boards have qualifiers. -/
theorem isQualifying_of_registered :
    ∀ entry ∈ Board.registry, IsQualifying entry.2.flashQualifier := by
  decide

example : IsQualifying (.text "PROGMEM __attribute__((section(\".rodata\"), aligned(4)))") := by
  decide

example : ¬ IsQualifying (.text "= \x7b0.0f\x7d; const float other[]") := by decide

end DenseSketch.Table
