import QtAppBase.Library.Provenance

/-!
# A stream of numbered frames

Frames are sent one after another, and every item is tagged with the number of
its frame. The receiver takes chunks off the stream; a chunk whose items all
carry one number lies within the frame of that number.
-/

namespace QtAppBase.Library

variable {β : Type*} {m i : ℕ} {f : List β} {fs : List (List β)}

/-- The stream of the frames, the first of which has the given number. -/
def numbered : ℕ → List (List β) → List (β × ℕ)
  | _, [] => []
  | m, f :: fs => tagAll m f ++ numbered (m + 1) fs

/-- Later frames follow on the stream, with later numbers. -/
theorem numbered_append (fs gs : List (List β)) :
    numbered m (fs ++ gs) = numbered m fs ++ numbered (m + fs.length) gs := by
  induction fs generalizing m with
  | nil => simp [numbered]
  | cons f fs ih =>
    have hnumber : m + 1 + fs.length = m + (fs.length + 1) := by omega
    rw [List.cons_append, numbered, numbered, ih, List.append_assoc, List.length_cons, hnumber]

/-- The items on the stream are numbered from the first frame on. -/
theorem number_ge {p : β × ℕ} (h : p ∈ numbered m fs) : m ≤ p.2 := by
  induction fs generalizing m with
  | nil => cases h
  | cons f fs ih =>
    rcases List.mem_append.mp h with hfirst | hlater
    · exact Nat.le_of_eq (mem_tagAll.mp hfirst).2.symm
    · have hge := ih hlater
      omega

@[simp] theorem tagAll_length (tag : ℕ) (items : List β) :
    (tagAll tag items).length = items.length := List.length_map _

/-- **Chunk rule.** Part of the first frame has been taken off the stream, and
the next chunk carries a single number. Then it is the number of the first
frame, and the chunk ends within that frame. -/
theorem chunk_within {piece chunk rest : List (β × ℕ)}
    (hstream : piece ++ (chunk ++ rest) = numbered m (f :: fs)) (hpiece : piece.length < f.length)
    (hchunk : chunk ≠ []) (htags : ∀ p ∈ chunk, p.2 = i) :
    i = m ∧ piece ++ chunk <+: tagAll m f := by
  have hPrefix : piece ++ chunk <+: tagAll m f ++ numbered (m + 1) fs :=
    ⟨rest, by rw [List.append_assoc, hstream, numbered]⟩
  have hfirst : i = m := by
    obtain ⟨p, tail, rfl⟩ := List.exists_cons_of_ne_nil hchunk
    have hlt : piece.length < (tagAll m f).length := by rwa [tagAll_length]
    have hp : (tagAll m f)[piece.length]? = some p := by
      have hget : (tagAll m f ++ numbered (m + 1) fs)[piece.length]? = some p := by
        obtain ⟨tail', htail⟩ := hPrefix
        rw [← htail, List.append_assoc, List.getElem?_append_right (Nat.le_refl _)]
        simp
      rwa [List.getElem?_append_left hlt] at hget
    have hmem := List.mem_of_getElem? hp
    rw [← htags p List.mem_cons_self, (mem_tagAll.mp hmem).2]
  refine ⟨hfirst, ?_⟩
  rcases List.prefix_or_prefix_of_prefix hPrefix (List.prefix_append _ _) with hwithin | hbeyond
  · exact hwithin
  · -- what lies beyond the first frame would be part of the chunk with a later number
    obtain ⟨extra, hextra⟩ := hbeyond
    have hlater : extra <+: numbered (m + 1) fs := by
      rw [← hextra] at hPrefix
      exact (List.prefix_append_right_inj _).mp hPrefix
    have hsuffix : extra <:+ chunk := by
      have hlength : extra.length ≤ chunk.length := by
        have htotal := congrArg List.length hextra
        rw [List.length_append, List.length_append, tagAll_length] at htotal
        omega
      exact List.suffix_of_suffix_length_le ⟨tagAll m f, hextra⟩ (List.suffix_append _ _) hlength
    have hnil : extra = [] := by
      by_contra hne
      obtain ⟨p, hp⟩ := List.exists_mem_of_ne_nil extra hne
      have hnumber := htags p (hsuffix.mem hp)
      have hge := number_ge (hlater.mem hp)
      omega
    rw [hnil, List.append_nil] at hextra
    exact hextra ▸ List.prefix_refl _

end QtAppBase.Library
