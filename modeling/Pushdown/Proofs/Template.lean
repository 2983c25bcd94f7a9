import Pushdown.Template

/-!
Templates with one slot. What stands around the slot is kept, and the slot gives way to the text of
its value.
-/
namespace Pushdown.Template

/-- Characters that stand for themselves outside of slots. -/
def isBraceless (cs : List Char) : Bool := cs.all fun c => c != '{' && c != '}'

/-- Characters that a slot takes as its whole name. -/
def isSlotName (cs : List Char) : Bool :=
  cs.all fun c => !(['{', '}', '[', '!', ':'].contains c)

theorem pieces_braceless {front : List Char} (h : isBraceless front = true) (rest : List Char) :
    pieces .plain (front ++ rest) = front.map .char ++ pieces .plain rest := by
  induction front with
  | nil => rfl
  | cons c front ih =>
    simp only [isBraceless, List.all_cons, Bool.and_eq_true, bne_iff_ne] at h
    obtain ⟨⟨hopen, hclose⟩, hfront⟩ := h
    have hstep := ih hfront
    rw [List.cons_append, pieces, hstep]
    · rfl
    all_goals simp_all

theorem pieces_name {name : List Char} (h : isSlotName name = true) (seen rest : List Char) :
    pieces (.name seen) (name ++ '}' :: rest) =
      .slot ⟨seen.reverse ++ name, none, []⟩ :: pieces .plain rest := by
  induction name generalizing seen with
  | nil => simp [pieces]
  | cons c name ih =>
    simp only [isSlotName, List.all_cons, Bool.and_eq_true] at h
    obtain ⟨hc, hname⟩ := h
    have hstep := ih hname (c :: seen)
    rw [List.cons_append, pieces, hstep]
    · simp
    all_goals
      rintro rfl
      simp at hc

theorem pieces_slot {name : List Char} (h : isSlotName name = true) (rest : List Char) :
    pieces .plain ('{' :: (name ++ '}' :: rest)) = .slot ⟨name, none, []⟩ :: pieces .plain rest := by
  have hname := pieces_name h [] rest
  cases name with
  | nil => simp [pieces]
  | cons c name =>
    simp only [isSlotName, List.all_cons, Bool.and_eq_true] at h
    rw [List.cons_append, pieces]
    · exact hname
    all_goals simp_all

variable {values : Values} {expand : List Char → Except Fault String}

theorem fillPieces_chars (cs : List Char) (rest : List Piece) :
    fillPieces values expand (cs.map .char ++ rest) =
      (fillPieces values expand rest).map (String.ofList cs ++ ·) := by
  induction cs with
  | nil =>
    simp only [List.map_nil, List.nil_append, String.ofList_nil, String.empty_append]
    cases fillPieces values expand rest <;> rfl
  | cons c cs ih =>
    rw [List.map_cons, List.cons_append, fillPieces, ih]
    cases fillPieces values expand rest with
    | error e => rfl
    | ok s =>
      refine congrArg Except.ok (String.ext ?_)
      simp

/-- A template with one slot, without a conversion or a layout. -/
theorem fill_slot {template : String} {front name back : List Char} {value : Value}
    (ht : template.toList = front ++ '{' :: (name ++ '}' :: back)) (hf : isBraceless front = true)
    (hn : isSlotName name = true) (hb : isBraceless back = true) (hv : lookup values name = .ok value) :
    fill template values = .ok (String.ofList front ++ value.plain ++ String.ofList back) := by
  have hback : pieces .plain back = back.map .char ++ [] := by
    simpa [pieces] using pieces_braceless hb []
  rw [fill, ht, maxDepth, fillTo, pieces_braceless hf, fillPieces_chars, pieces_slot hn, hback,
    fillPieces, fillPieces_chars, hv]
  refine congrArg Except.ok (String.ext ?_)
  simp

end Pushdown.Template
