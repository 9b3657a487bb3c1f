import Mathlib.Data.List.Induction

/-!
# Lists made of pieces

A list of pieces read one after the other, and what is asked of each piece by what came before it.

## Main results

* `forall_split_concat`: a property of the elements of a list by those before them, step by step.
* `flatMap_isPrefix_iff`: the pieces together are the start of a stream if and only if each piece is
  what comes next.
-/

variable {α β : Type*}

theorem append_isPrefix_iff {xs ys zs : List α} :
    xs ++ ys <+: zs ↔ xs <+: zs ∧ ys <+: zs.drop xs.length := by
  constructor
  · rintro ⟨rest, rfl⟩
    rw [List.append_assoc, List.drop_left]
    exact ⟨List.prefix_append _ _, List.prefix_append _ _⟩
  · rintro ⟨⟨rest, rfl⟩, h⟩
    rw [List.drop_left] at h
    exact (List.prefix_append_right_inj xs).mpr h

theorem forall_split_concat {p : List α → α → Prop} {l : List α} {a : α} :
    (∀ pre x post, l ++ [a] = pre ++ x :: post → p pre x) ↔
      (∀ pre x post, l = pre ++ x :: post → p pre x) ∧ p l a := by
  constructor
  · intro h
    refine ⟨?_, h l a [] rfl⟩
    rintro pre x post rfl
    exact h pre x (post ++ [a]) (by simp)
  · rintro ⟨h, ha⟩ pre x post heq
    rcases List.eq_nil_or_concat post with rfl | ⟨post, b, rfl⟩
    · obtain ⟨rfl, hx⟩ := List.append_inj' heq rfl
      rwa [← List.singleton_inj.mp hx]
    · rw [List.concat_eq_append, ← List.cons_append, ← List.append_assoc] at heq
      exact h pre x post (List.append_inj' heq rfl).1

theorem flatMap_isPrefix_iff {f : α → List β} {l : List α} {stream : List β} :
    l.flatMap f <+: stream ↔
      ∀ pre x post, l = pre ++ x :: post → f x <+: stream.drop (pre.flatMap f).length := by
  induction l using List.reverseRecOn with
  | nil => simp
  | append_singleton l a ih =>
    rw [List.flatMap_append, List.flatMap_singleton, append_isPrefix_iff, ih,
      forall_split_concat (p := fun pre x => f x <+: stream.drop (pre.flatMap f).length)]
