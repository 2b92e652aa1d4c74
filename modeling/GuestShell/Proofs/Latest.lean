import Mathlib.Data.List.Basic

/-!
# The latest mark that nothing has undone

Much of what is true after some events was decided by one of them and was not undone since.
An event can mark a list, or undo a mark, by what it is and by the events before it.
`Latest` is a mark of a list that no later event undoes; there may be several, and only one if
every mark undoes the earlier ones.

How a list gets a mark and keeps one when it is extended at the end is all that is needed of
this for an induction over runs (`exists_latest_concat_iff`).
-/

namespace GuestShell

/-- A list is split at a mark that nothing after it undoes. -/
structure Latest {α : Type} (marks undoes : List α → α → Prop) (events before : List α)
    (mark : α) (after : List α) : Prop where
  split : events = before ++ mark :: after
  marked : marks before mark
  since : ∀ earlier later rest, after = earlier ++ later :: rest →
    ¬undoes (before ++ mark :: earlier) later

namespace Latest

variable {α : Type} {marks undoes : List α → α → Prop} {events before after : List α}
  {mark next : α}

theorem not_nil : ¬Latest marks undoes [] before mark after := by
  intro h
  have hsplit := h.split
  cases before <;> cases hsplit

/-- A mark that has just been made. -/
theorem last (hmarks : marks events next) :
    Latest marks undoes (events ++ [next]) events next [] where
  split := rfl
  marked := hmarks
  since := by
    intro earlier later rest hsplit
    cases earlier <;> cases hsplit

/-- One more event, which does not undo the mark. -/
theorem concat (h : Latest marks undoes events before mark after) (hnext : ¬undoes events next) :
    Latest marks undoes (events ++ [next]) before mark (after ++ [next]) where
  split := by rw [h.split, List.append_assoc, List.cons_append]
  marked := h.marked
  since := by
    intro earlier later rest hsplit
    -- the longer list is split at its end or within the shorter one
    rcases List.eq_nil_or_concat' rest with rfl | ⟨rest, final, rfl⟩
    · obtain ⟨hearlier, hlater⟩ := List.append_inj' hsplit rfl
      cases hlater
      rw [← hearlier, ← h.split]
      exact hnext
    · rw [← List.cons_append, ← List.append_assoc] at hsplit
      obtain ⟨hafter, -⟩ := List.append_inj' hsplit rfl
      exact h.since earlier later rest hafter

/-- The mark is the last event, or it was there before and is not undone by the last event. -/
theorem of_concat (h : Latest marks undoes (events ++ [next]) before mark after) :
    (before = events ∧ mark = next ∧ after = []) ∨
      ∃ after', after = after' ++ [next] ∧ Latest marks undoes events before mark after' ∧
        ¬undoes events next := by
  rcases List.eq_nil_or_concat' after with rfl | ⟨after', final, rfl⟩
  · obtain ⟨hbefore, hmark⟩ := List.append_inj' h.split rfl
    cases hmark
    exact Or.inl ⟨hbefore.symm, rfl, rfl⟩
  · have hsplit := h.split
    rw [← List.cons_append, ← List.append_assoc] at hsplit
    obtain ⟨hevents, hfinal⟩ := List.append_inj' hsplit rfl
    cases hfinal
    refine Or.inr ⟨after', rfl, ⟨hevents, h.marked, ?_⟩, ?_⟩
    · intro earlier later rest hafter
      refine h.since earlier later (rest ++ [next]) ?_
      rw [hafter, List.append_assoc, List.cons_append]
    · rw [hevents]
      exact h.since after' next [] rfl

end Latest

/-- An extended list has a mark exactly if the last event makes one, or if there was one and
the last event does not undo it. -/
theorem exists_latest_concat_iff {α : Type} {marks undoes : List α → α → Prop} {events : List α}
    {next : α} :
    (∃ before mark after, Latest marks undoes (events ++ [next]) before mark after) ↔
      marks events next ∨
      ((∃ before mark after, Latest marks undoes events before mark after) ∧
        ¬undoes events next) := by
  constructor
  · rintro ⟨before, mark, after, h⟩
    rcases h.of_concat with ⟨rfl, rfl, rfl⟩ | ⟨after', -, hbefore, hkept⟩
    · exact Or.inl h.marked
    · exact Or.inr ⟨⟨before, mark, after', hbefore⟩, hkept⟩
  · rintro (hmarks | ⟨⟨before, mark, after, h⟩, hkept⟩)
    · exact ⟨events, next, [], .last hmarks⟩
    · exact ⟨before, mark, after ++ [next], h.concat hkept⟩

end GuestShell
