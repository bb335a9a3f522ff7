import Mathlib.Data.List.Perm.Basic

/-!
Texts in order. Sorting leaves no trace of where a text stood before.
-/
namespace MonorepoCheck.Text

/-- Whether the first of two texts may stand before the second. -/
def before (a b : String) : Bool := !decide (b < a)

theorem before_iff {a b : String} : before a b = true ↔ a ≤ b := by
  rw [before, Bool.not_eq_true', decide_eq_false_iff_not, String.not_lt]

theorem mergeSort_pairwise (texts : List String) : (texts.mergeSort before).Pairwise (· ≤ ·) := by
  refine (List.pairwise_mergeSort ?_ ?_ texts).imp before_iff.mp
  · intro a b c first second
    exact before_iff.mpr (String.le_trans (before_iff.mp first) (before_iff.mp second))
  · intro a b
    rw [Bool.or_eq_true, before_iff, before_iff]
    exact String.le_total a b

theorem mergeSort_of_perm {texts others : List String} (perm : texts.Perm others) :
    texts.mergeSort before = others.mergeSort before :=
  (((List.mergeSort_perm texts _).trans perm).trans (List.mergeSort_perm others _).symm).eq_of_pairwise
    (fun _ _ _ _ => String.le_antisymm) (mergeSort_pairwise texts) (mergeSort_pairwise others)

theorem mergeSort_of_pairwise {texts : List String} (inOrder : texts.Pairwise (· ≤ ·)) :
    texts.mergeSort before = texts :=
  (List.mergeSort_perm texts _).eq_of_pairwise (fun _ _ _ _ => String.le_antisymm)
    (mergeSort_pairwise texts) inOrder

end MonorepoCheck.Text
