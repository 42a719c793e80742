import ChannelConsole.Proofs.Text.Items
import Mathlib.Data.List.SplitBy

/-!
# Runs of characters

Cutting a text finds the trimmed pieces between its delimiters. Where blanks are delimiters, too,
there is nothing to trim, and what is found are the longest unbroken runs of other characters, in
the order in which they stand in the text (`items_eq_runs`). These are defined without any cutting:
a list falls into stretches of neighbours of one kind, and the runs are those stretches that have no
delimiter.
-/

namespace ChannelConsole.Text

variable {cut : CodePoint → Bool}

/-- The longest unbroken runs of characters that are no delimiters. -/
def runChars (cut : CodePoint → Bool) (cs : List CodePoint) : List (List CodePoint) :=
  (cs.splitBy fun c d => cut c == cut d).filter fun run => run.all (!cut ·)

/-- The longest unbroken runs of characters of a text that are no delimiters. -/
def runs (cut : CodePoint → Bool) (s : Text) : List Text :=
  (runChars cut s.toList).map Text.ofList

/-! ### Runs and delimiters -/

/-- Neighbours of one kind make one stretch. -/
theorem splitBy_of_forall {b : Bool} {cs : List CodePoint} (h : ∀ c ∈ cs, cut c = b)
    (hne : cs ≠ []) :
    (cs.splitBy fun c d => cut c == cut d) = [cs] := by
  apply List.splitBy_of_isChain hne
  apply List.Pairwise.isChain
  refine List.pairwise_of_forall_mem_list fun c hc d hd => ?_
  rw [h c hc, h d hd, beq_self_eq_true]

/-- Characters without a delimiter are one run, if there are any. -/
theorem runChars_of_forall_not {cs : List CodePoint} (h : ∀ c ∈ cs, cut c = false) :
    runChars cut cs = if cs.isEmpty then [] else [cs] := by
  cases cs with
  | nil => rfl
  | cons c cs =>
    have hall : (c :: cs).all (!cut ·) = true := by simpa using h
    rw [runChars, splitBy_of_forall h (List.cons_ne_nil c cs), List.filter_singleton, hall]
    rfl

/-- Characters of one kind in front of one of the other kind make a stretch of their own. -/
theorem runChars_append {b : Bool} {xs ys : List CodePoint} (hx : ∀ c ∈ xs, cut c = b)
    (hy : ∀ c ∈ ys.head?, cut c = !b) :
    runChars cut (xs ++ ys) = runChars cut xs ++ runChars cut ys := by
  rw [runChars, List.splitBy_append, List.filter_append, runChars, runChars]
  intro c hc d hd
  rw [hx c (List.mem_of_getLast? hc), hy d hd]
  cases b <;> rfl

/-- Delimiters alone have no runs. -/
theorem runChars_of_forall {cs : List CodePoint} (h : ∀ c ∈ cs, cut c = true) :
    runChars cut cs = [] := by
  cases cs with
  | nil => rfl
  | cons c cs =>
    have hc : cut c = true := h c List.mem_cons_self
    rw [runChars, splitBy_of_forall h (List.cons_ne_nil c cs), List.filter_singleton]
    simp [hc]

/-- Delimiters in front belong to no run. -/
theorem runChars_dropWhile (cs : List CodePoint) :
    runChars cut (cs.dropWhile cut) = runChars cut cs := by
  have hfront : ∀ c ∈ cs.takeWhile cut, cut c = true := fun c hc => List.mem_takeWhile_imp hc
  have hrest : ∀ c ∈ (cs.dropWhile cut).head?, cut c = false := by
    intro c hc
    have hhead := List.head?_dropWhile_not cut cs
    rw [hc] at hhead
    simpa using hhead
  conv => rhs; rw [← List.takeWhile_append_dropWhile (p := cut) (l := cs)]
  rw [runChars_append hfront hrest, runChars_of_forall hfront, List.nil_append]

theorem runChars_cons_of_cut {d : CodePoint} (hd : cut d = true) (cs : List CodePoint) :
    runChars cut (d :: cs) = runChars cut cs := by
  rw [← runChars_dropWhile (d :: cs), List.dropWhile_cons_of_pos hd, runChars_dropWhile]

/-- A text has the runs in front of a delimiter and then those behind it. -/
theorem runChars_append_cons {d : CodePoint} (hd : cut d = true) (xs ys : List CodePoint) :
    runChars cut (xs ++ d :: ys) = runChars cut xs ++ runChars cut ys := by
  suffices h : ∀ (d : CodePoint) (ys : List CodePoint), cut d = true →
      runChars cut (xs ++ d :: ys) = runChars cut xs ++ runChars cut ys from h d ys hd
  refine cut_induction cut xs ?_ ?_
  · intro xs hxs d ys hd
    have hhead : ∀ c ∈ (d :: ys).head?, cut c = true := by simpa using hd
    rw [runChars_append hxs hhead, runChars_cons_of_cut hd]
  · intro us e vs he hu hv d ys hd
    rw [List.append_assoc, List.cons_append, hu e _ he, hv d ys hd, ← List.append_assoc,
      ← hu e vs he]

/-! ### Main statement -/

/-- Where blanks are delimiters, the items of a text are its runs. -/
theorem itemChars_eq_runChars (hblank : ∀ c, isBlank c = true → cut c = true)
    (cs : List CodePoint) :
    itemChars cut cs = runChars cut cs := by
  refine cut_induction cut cs ?_ ?_
  · intro cs hcs
    -- without a delimiter there is no blank, so there is nothing to trim
    have hsolid : ∀ c ∈ cs, isBlank c = false := by
      intro c hc
      rw [Bool.eq_false_iff]
      intro hblankc
      exact absurd (hblank c hblankc) (by simp [hcs c hc])
    have htrim : trimChars cs = cs := trimChars_of_isBlank_ends
      (fun c hc => hsolid c (List.mem_of_head? hc)) fun c hc => hsolid c (List.mem_of_getLast? hc)
    rw [itemChars_of_forall_not hcs, htrim, runChars_of_forall_not hcs]
  · intro xs d ys hd hx hy
    rw [itemChars_append_cons hd, hx, hy, runChars_append_cons hd]

/-- Where blanks are delimiters, the items of a text are its longest unbroken runs of other
characters. -/
theorem items_eq_runs (hblank : ∀ c, isBlank c = true → cut c = true) (s : Text) :
    items cut s = runs cut s := by
  rw [items, itemChars_eq_runChars hblank, runs]

end ChannelConsole.Text
