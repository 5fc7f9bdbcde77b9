import Mathlib.Tactic.Common
import Mathlib.Data.List.Basic

/-!
# Where buffered items came from

A consumer buffers the most recent part of a stream: items are appended as they
arrive, and the buffer is cleared or cut at the front. If the stream is recorded
with a tag on every item, the buffer is at all times the end of that record, and
the tags there say where the buffered items came from.
-/

namespace QtAppBase.Library

variable {β τ : Type*} {history chunk : List (β × τ)} {held : List β} {P Q : τ → Prop}

/-- The items held are the last ones of the tagged history, and each of their
tags satisfies `P`. -/
def Provenance (history : List (β × τ)) (held : List β) (P : τ → Prop) : Prop :=
  ∃ segment, segment <:+ history ∧ segment.map Prod.fst = held ∧ ∀ p ∈ segment, P p.2

namespace Provenance

/-- An empty buffer came from anywhere. -/
theorem nil (history : List (β × τ)) (P : τ → Prop) : Provenance history [] P :=
  ⟨[], List.nil_suffix, rfl, by simp⟩

/-- Items appended to the buffer as they arrive bring their tags along. -/
theorem append (h : Provenance history held P) (hchunk : ∀ p ∈ chunk, P p.2) :
    Provenance (history ++ chunk) (held ++ chunk.map Prod.fst) P := by
  obtain ⟨segment, ⟨older, rfl⟩, rfl, htags⟩ := h
  refine ⟨segment ++ chunk, ⟨older, by rw [List.append_assoc]⟩, by rw [List.map_append], ?_⟩
  intro p hp
  rcases List.mem_append.mp hp with hp | hp
  · exact htags p hp
  · exact hchunk p hp

/-- A buffer cut at the front keeps the tags of what is left. -/
theorem suffix {kept : List β} (h : Provenance history held P) (hkept : kept <:+ held) :
    Provenance history kept P := by
  obtain ⟨segment, hsuffix, rfl, htags⟩ := h
  obtain ⟨cut, hcut⟩ := hkept
  have hlength : cut.length + kept.length = segment.length := by
    rw [← List.length_append, hcut, List.length_map]
  refine ⟨segment.drop cut.length, (List.drop_suffix _ _).trans hsuffix, ?_,
    fun p hp => htags p (List.mem_of_mem_drop hp)⟩
  rw [List.map_drop, ← hcut, List.drop_left]

/-- The segment is determined: it is what is left of the history when all but
as many items as are held are dropped. -/
theorem iff_drop :
    Provenance history held P ↔
      (history.drop (history.length - held.length)).map Prod.fst = held ∧
        ∀ p ∈ history.drop (history.length - held.length), P p.2 := by
  constructor
  · rintro ⟨segment, ⟨older, rfl⟩, rfl, htags⟩
    have holder : (older ++ segment).length - (segment.map Prod.fst).length = older.length := by
      rw [List.length_append, List.length_map]
      omega
    rw [holder, List.drop_left]
    exact ⟨rfl, htags⟩
  · rintro ⟨hmap, htags⟩
    exact ⟨_, List.drop_suffix _ _, hmap, htags⟩

instance [DecidableEq β] [DecidablePred P] : Decidable (Provenance history held P) :=
  decidable_of_iff _ iff_drop.symm

end Provenance

/-- Tag every item of a chunk alike. -/
def tagAll (tag : τ) (items : List β) : List (β × τ) := items.map (·, tag)

@[simp] theorem tagAll_fst (tag : τ) (items : List β) :
    (tagAll tag items).map Prod.fst = items := by
  simp [tagAll, Function.comp_def]

@[simp] theorem mem_tagAll {tag : τ} {items : List β} {p : β × τ} :
    p ∈ tagAll tag items ↔ p.1 ∈ items ∧ p.2 = tag := by
  obtain ⟨item, tag'⟩ := p
  simp [tagAll, eq_comm]

/-- The tags of the last items of the history. -/
def lastTags (history : List (β × τ)) (count : ℕ) : List τ :=
  (history.drop (history.length - count)).map Prod.snd

/-- The last items of the history are those of any segment at its end. -/
theorem lastTags_of_suffix {segment : List (β × τ)} (h : segment <:+ history) {count : ℕ}
    (hcount : count = segment.length) : lastTags history count = segment.map Prod.snd := by
  obtain ⟨older, rfl⟩ := h
  have holder : (older ++ segment).length - count = older.length := by
    rw [List.length_append]
    omega
  rw [lastTags, holder, List.drop_left]

end QtAppBase.Library
