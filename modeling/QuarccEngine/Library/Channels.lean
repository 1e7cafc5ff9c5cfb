import Mathlib.Data.List.Basic

/-!
# Channels that may lose

What is sent through a channel arrives in order, but some of it may be lost: when it is sent,
because the channel is full, or later on the way.  `Channel.Move` says what a step may do to the
list of what is kept, compared with the list of what was sent.  Whatever the steps are, what is kept
is a sublist of what was sent; and it is all that was sent as long as no step loses anything.
-/

namespace Channel

variable {α : Type*}

/-- A step from the kept list `kept` and the sent list `sent` to others, which is lossless or
not. -/
inductive Move (lossless : Prop) (kept sent : List α) : List α → List α → Prop
  /-- Nothing is sent and nothing lost. -/
  | same : lossless → Move lossless kept sent kept sent
  /-- Of `n` copies that are sent, `k` are kept. -/
  | send (x : α) {k n : ℕ} : k ≤ n → (lossless ↔ k = n) →
    Move lossless kept sent (kept ++ List.replicate k x) (sent ++ List.replicate n x)
  /-- Something is lost on the way. -/
  | lose {before after : List α} (x : α) : kept = before ++ x :: after → ¬ lossless →
    Move lossless kept sent (before ++ after) sent

variable {lossless : Prop} {kept sent kept' sent' : List α}

/-- Another condition for losing nothing. -/
lemma Move.congr {lossless' : Prop} (h : Move lossless kept sent kept' sent')
    (hiff : lossless ↔ lossless') : Move lossless' kept sent kept' sent' := by
  rwa [← propext hiff]

/-- What is kept stays a part of what was sent, in the same order. -/
theorem Move.sublist (h : Move lossless kept sent kept' sent') (hsub : kept.Sublist sent) :
    kept'.Sublist sent' := by
  cases h with
  | same _ => exact hsub
  | send x hle _ => exact hsub.append (List.replicate_sublist_replicate x |>.mpr hle)
  | lose x hkept _ =>
    refine List.Sublist.trans ?_ hsub
    rw [hkept]
    exact List.Sublist.append_left (List.sublist_cons_self _ _) _

/-- As long as everything is kept, a step keeps everything exactly when it is lossless. -/
theorem Move.eq_iff (h : Move lossless kept sent kept' sent') (heq : kept = sent) :
    kept' = sent' ↔ lossless := by
  cases h with
  | same hlossless => exact iff_of_true heq hlossless
  | @send x k n _ hiff =>
    rw [hiff, heq, List.append_cancel_left_eq]
    constructor
    · intro hcopies
      have hlength := congrArg List.length hcopies
      rwa [List.length_replicate, List.length_replicate] at hlength
    · rintro rfl
      rfl
  | @lose before after x hkept hnot =>
    refine iff_of_false (fun hsame => ?_) hnot
    have hlength := congrArg List.length (hsame.trans (heq.symm.trans hkept))
    simp at hlength

end Channel
