/-!
Cutting sequences at marks.
-/

namespace LinuxAudit.Text

/-- Cuts at the first occurrence of a mark and drops the mark. -/
def cut? {α : Type} [BEq α] (mark : List α) : List α → Option (List α × List α)
  | [] => if mark.isEmpty then some ([], []) else none
  | a :: rest =>
    if mark.isPrefixOf (a :: rest) then some ([], (a :: rest).drop mark.length)
    else (cut? mark rest).map fun (before, after) => (a :: before, after)

/-- The stretches between separators; there is one more of them than separators. -/
def fields {α : Type} [BEq α] (separator : α) : List α → List (List α)
  | [] => [[]]
  | a :: rest =>
    match fields separator rest with
    | [] => []
    | first :: others => if a == separator then [] :: first :: others else (a :: first) :: others

/-- What follows a given beginning. -/
def after? {α : Type} [BEq α] (beginning s : List α) : Option (List α) :=
  if beginning.isPrefixOf s then some (s.drop beginning.length) else none

variable {α : Type} [BEq α] [LawfulBEq α]

theorem after?_append (beginning behind : List α) :
    after? beginning (beginning ++ behind) = some behind := by
  rw [after?, if_pos, List.drop_left]
  exact List.isPrefixOf_iff_prefix.2 (List.prefix_append _ _)

/-- The first occurrence of a mark is behind all that does not hold its first element. -/
theorem cut?_append {a : α} (mark : List α) {front : List α} (hfront : a ∉ front)
    (behind : List α) :
    cut? (a :: mark) (front ++ (a :: mark ++ behind)) = some (front, behind) := by
  induction front with
  | nil =>
    have hmark : (a :: mark).isPrefixOf (a :: (mark ++ behind)) = true :=
      List.isPrefixOf_iff_prefix.2 (List.prefix_append (a :: mark) behind)
    rw [List.nil_append, List.cons_append, cut?, if_pos hmark, ← List.cons_append, List.drop_left]
  | cons b front ih =>
    obtain ⟨hne, hrest⟩ : a ≠ b ∧ a ∉ front := not_or.1 (mt List.mem_cons.2 hfront)
    have hmark : ¬(a :: mark).isPrefixOf (b :: (front ++ (a :: mark ++ behind))) = true := by
      rw [List.isPrefixOf_iff_prefix, List.cons_prefix_cons]
      exact fun h => hne h.1
    rw [List.cons_append, cut?, if_neg hmark, ih hrest]
    rfl

end LinuxAudit.Text
