import Mathlib.Data.List.Infix
import Mathlib.Data.List.TakeWhile
import Mathlib.Tactic.SplitIfs

/-!
# Blanking a value in a text

A text is cut behind the first occurrence of a key, up to the next separator. A
template is a text with slots for a secret. Which secrets the cut text then
depends on is decided by the template: its own cut has to take every slot away.
-/

namespace QtAppBase.Library

variable {α : Type*}

/-- A template with its slots, the `none`s, filled in. -/
def fill (secret : List α) (template : List (Option α)) : List α :=
  template.flatMap fun symbol => symbol.elim secret ([·])

@[simp] theorem fill_nil (secret : List α) : fill secret [] = [] := rfl

@[simp] theorem fill_none (secret : List α) (template : List (Option α)) :
    fill secret (none :: template) = secret ++ fill secret template := rfl

@[simp] theorem fill_some (secret : List α) (a : α) (template : List (Option α)) :
    fill secret (some a :: template) = a :: fill secret template := rfl

theorem fill_append (secret : List α) (template template' : List (Option α)) :
    fill secret (template ++ template') = fill secret template ++ fill secret template' :=
  List.flatMap_append ..

/-- A template without slots is a text. -/
@[simp] theorem fill_map_some (secret text : List α) : fill secret (text.map some) = text := by
  induction text with
  | nil => rfl
  | cons a rest ih => rw [List.map_cons, fill_some, ih]

/-- Nothing else is one. -/
theorem exists_text {template : List (Option α)} (hfull : none ∉ template) :
    ∃ text : List α, template = text.map some := by
  induction template with
  | nil => exact ⟨[], rfl⟩
  | cons symbol rest ih =>
    obtain ⟨hsymbol, hrest⟩ := not_or.mp (mt List.mem_cons.mpr hfull)
    obtain ⟨a, rfl⟩ := Option.ne_none_iff_exists'.mp (Ne.symm hsymbol)
    obtain ⟨text, rfl⟩ := ih hrest
    exact ⟨a :: text, rfl⟩

/-- Without slots the secret does not matter. -/
theorem fill_of_full {template : List (Option α)} (hfull : none ∉ template)
    (secret secret' : List α) :
    fill secret template = fill secret' template := by
  obtain ⟨text, rfl⟩ := exists_text hfull
  rw [fill_map_some, fill_map_some]

/-- What the secret holds is in every template with a slot. -/
theorem mem_fill {secret : List α} {template : List (Option α)} {a : α} (hslot : none ∈ template)
    (ha : a ∈ secret) : a ∈ fill secret template :=
  List.mem_flatMap.mpr ⟨none, hslot, ha⟩

/-- A longer secret makes a template with slots longer. -/
theorem length_fill (secret : List α) (template : List (Option α)) :
    (fill secret template).length + template.countP Option.isNone =
      template.length + template.countP Option.isNone * secret.length := by
  induction template with
  | nil => simp
  | cons symbol rest ih =>
    cases symbol with
    | none =>
      have hslots : (none :: rest).countP Option.isNone = rest.countP Option.isNone + 1 :=
        List.countP_cons_of_pos rfl
      rw [fill_none, List.length_append, hslots, Nat.add_mul, List.length_cons]
      omega
    | some a =>
      have hslots : (some a :: rest).countP Option.isNone = rest.countP Option.isNone :=
        List.countP_cons_of_neg (by simp)
      rw [fill_some, List.length_cons, hslots, List.length_cons]
      omega

/-- Two secrets of different lengths that a template does not tell apart have no slot in it. -/
theorem full_of_fill_eq {secret secret' : List α} {template : List (Option α)}
    (h : fill secret template = fill secret' template) (hlength : secret.length ≠ secret'.length) :
    none ∉ template := by
  intro hslot
  have hpos : 0 < template.countP Option.isNone := List.countP_pos_iff.mpr ⟨none, hslot, rfl⟩
  have hfirst := length_fill secret template
  rw [h, length_fill secret' template] at hfirst
  have hsame := Nat.eq_of_mul_eq_mul_left hpos (Nat.add_left_cancel hfirst)
  exact hlength hsame.symm

/-- A key cannot start inside a secret that shares no symbol with it. -/
theorem prefix_fill_fresh {secret key : List α} {template : List (Option α)}
    (hnonempty : secret ≠ []) (hfresh : ∀ a ∈ secret, a ∉ key) :
    key <+: fill secret template ↔ key.map some <+: template := by
  induction template generalizing key with
  | nil => simp
  | cons symbol rest ih =>
    cases key with
    | nil => simp
    | cons k key =>
      cases symbol with
      | none =>
        obtain ⟨a, secret, rfl⟩ := List.exists_cons_of_ne_nil hnonempty
        have hne : k ≠ a := fun heq => hfresh a List.mem_cons_self (heq ▸ List.mem_cons_self)
        simp [List.cons_prefix_cons, hne]
      | some a =>
        have hrest : ∀ b ∈ secret, b ∉ key :=
          fun b hb hmem => hfresh b hb (List.mem_cons_of_mem _ hmem)
        simp [List.cons_prefix_cons, ih hrest]

/-! ### Where the key occurs -/

/-- A key without the separator starts in front of it only if it ends there too. -/
theorem prefix_append_separator {key : List α} {separator : α} (hseparator : separator ∉ key)
    {front rest : List α} :
    key <+: front ++ separator :: rest ↔ key <+: front := by
  constructor
  · intro h
    rcases List.prefix_or_prefix_of_prefix h (List.prefix_append front _) with hshort | hlong
    · exact hshort
    · obtain ⟨behind, rfl⟩ := hlong
      cases behind with
      | nil => simp
      | cons b behind =>
        have hhead := List.cons_prefix_cons.mp ((List.prefix_append_right_inj front).mp h)
        exact absurd (hhead.1 ▸ by simp) hseparator
  · exact fun h => h.trans (List.prefix_append _ _)

/-- So it occurs in front of the separator or behind it. -/
theorem infix_append_separator {key : List α} {separator : α} (hkey : key ≠ [])
    (hseparator : separator ∉ key) {front rest : List α} :
    key <:+: front ++ separator :: rest ↔ key <:+: front ∨ key <:+: rest := by
  induction front with
  | nil =>
    have hstart : key <+: [] ++ separator :: rest ↔ key <+: [] :=
      prefix_append_separator hseparator
    simp only [List.nil_append, List.prefix_nil] at hstart
    simp [List.infix_cons_iff, hstart, hkey]
  | cons a front ih =>
    rw [List.cons_append, List.infix_cons_iff, List.infix_cons_iff, ih, ← List.cons_append,
      prefix_append_separator hseparator, or_assoc]

/-- A key that ends where its last symbol first occurs does not go on behind such a symbol. -/
theorem infix_append_last {last : α} {body : List α} (hlast : last ∉ body) {front rest : List α} :
    body ++ [last] <:+: (front ++ [last]) ++ rest ↔
      body ++ [last] <:+: front ++ [last] ∨ body ++ [last] <:+: rest := by
  rw [List.infix_append_iff_ne_nil]
  refine or_congr_right (or_iff_left ?_)
  rintro ⟨before, behind, hbefore, hbehind, hsplit, hsuffix, -⟩
  have hend : last ∈ before := by
    have hlasts := hsuffix.getLast hbefore
    rw [List.getLast_concat] at hlasts
    exact hlasts ▸ List.getLast_mem hbefore
  have hbody : body = before ++ behind.dropLast := by
    rw [← List.dropLast_append_of_ne_nil hbehind, ← hsplit, List.dropLast_concat]
  exact hlast (hbody ▸ List.mem_append_left _ hend)

/-! ### Cutting -/

section Cut

variable [DecidableEq α]

/-- The value behind the first occurrence of the key is cut out, up to the next separator. -/
def cut (key : List α) (separator : α) : List α → List α
  | [] => []
  | a :: rest =>
    if key <+: a :: rest then
      key ++ ((a :: rest).drop key.length).dropWhile (· ≠ separator)
    else a :: cut key separator rest

variable {key secret : List α} {separator : α} {template : List (Option α)}

/-- Behind the first occurrence of the key. -/
theorem cut_at_key {text : List α} (hkey : key ≠ []) (h : key <+: text) :
    cut key separator text = key ++ (text.drop key.length).dropWhile (· ≠ separator) := by
  cases text with
  | nil => exact absurd (List.prefix_nil.mp h) hkey
  | cons a rest => exact if_pos h

/-- Before it. -/
theorem cut_cons {a : α} {rest : List α} (h : ¬ key <+: a :: rest) :
    cut key separator (a :: rest) = a :: cut key separator rest := if_neg h

/-- Filling in a text without separators does not move the next separator. -/
theorem dropWhile_fill (hsecret : separator ∉ secret) (template : List (Option α)) :
    (fill secret template).dropWhile (· ≠ separator) =
      fill secret (template.dropWhile (· ≠ some separator)) := by
  induction template with
  | nil => rfl
  | cons symbol rest ih =>
    cases symbol with
    | none =>
      have hskip : ∀ a ∈ secret, decide (a ≠ separator) = true := by
        intro a ha
        have hne : a ≠ separator := fun heq => hsecret (heq ▸ ha)
        simp [hne]
      rw [fill_none, List.dropWhile_append_of_pos hskip, ih]
      simp
    | some a =>
      by_cases ha : a = separator
      · simp [ha]
      · simpa [ha] using ih

/-- What stands in front of a text, and has a separator, is not skipped completely. -/
theorem length_dropWhile_append {text : List α} (h : separator ∈ text) (rest : List α) :
    rest.length < ((text ++ rest).dropWhile (· ≠ separator)).length := by
  have hkept : text.dropWhile (· ≠ separator) ≠ [] := by
    intro hnil
    have hskip := List.dropWhile_eq_nil_iff.mp hnil separator h
    simp at hskip
  have hpos := List.length_pos_iff.mpr hkept
  rw [List.dropWhile_append, if_neg (by simpa using hkept), List.length_append]
  omega

/-- The cut of a template that starts with the key is the cut of the text. -/
theorem cut_fill_at_key (hkey : key ≠ []) (hsecret : separator ∉ secret)
    (h : key.map some <+: template) :
    cut key separator (fill secret template) =
      fill secret (cut (key.map some) (some separator) template) := by
  have hkey' : key.map some ≠ [] := by simpa using hkey
  obtain ⟨rest, rfl⟩ := h
  have hprefix : key <+: fill secret (key.map some ++ rest) := by
    rw [fill_append, fill_map_some]
    exact List.prefix_append _ _
  rw [cut_at_key hkey hprefix, cut_at_key hkey' (List.prefix_append _ _), fill_append,
    fill_append, fill_map_some, List.drop_left, List.drop_left, dropWhile_fill hsecret]

/-! ### Secrets without symbols of the key -/

/-- Nothing is cut out of such a secret. -/
theorem cut_append_fresh (hkey : key ≠ []) {text : List α} (hfresh : ∀ a ∈ text, a ∉ key)
    (rest : List α) : cut key separator (text ++ rest) = text ++ cut key separator rest := by
  induction text with
  | nil => rfl
  | cons a text ih =>
    have hnot : ¬ key <+: a :: (text ++ rest) := by
      obtain ⟨k, key, rfl⟩ := List.exists_cons_of_ne_nil hkey
      intro h
      have hhead := (List.cons_prefix_cons.mp h).1
      exact hfresh a List.mem_cons_self (hhead ▸ List.mem_cons_self)
    rw [List.cons_append, cut_cons hnot, ih fun b hb => hfresh b (List.mem_cons_of_mem _ hb)]
    rfl

/-- A slot is not the start of the key. -/
theorem cut_none (hkey : key ≠ []) (rest : List (Option α)) :
    cut (key.map some) (some separator) (none :: rest) =
      none :: cut (key.map some) (some separator) rest := by
  obtain ⟨k, key, rfl⟩ := List.exists_cons_of_ne_nil hkey
  exact cut_cons (by simp [List.cons_prefix_cons])

/-- For such a secret the cut of the text is the cut of the template. -/
theorem cut_fill_fresh (hkey : key ≠ []) (hnonempty : secret ≠ []) (hsecret : separator ∉ secret)
    (hfresh : ∀ a ∈ secret, a ∉ key) :
    cut key separator (fill secret template) =
      fill secret (cut (key.map some) (some separator) template) := by
  induction template with
  | nil => rfl
  | cons symbol rest ih =>
    by_cases hprefix : key.map some <+: symbol :: rest
    · exact cut_fill_at_key hkey hsecret hprefix
    · cases symbol with
      | none => rw [fill_none, cut_append_fresh hkey hfresh, ih, cut_none hkey, fill_none]
      | some a =>
        have hnot : ¬ key <+: fill secret (some a :: rest) :=
          mt (prefix_fill_fresh hnonempty hfresh).mp hprefix
        rw [fill_some] at hnot ⊢
        rw [cut_cons hnot, ih, cut_cons hprefix, fill_some]

/-! ### Templates whose cut has no slot -/

/-- The key comes before the first slot. -/
theorem key_before_slot
    (hhidden : none ∉ cut (key.map some) (some separator) template) :
    none ∉ template ∨ ∃ before rest, template = (before ++ key).map some ++ rest := by
  induction template with
  | nil => exact Or.inl List.not_mem_nil
  | cons symbol rest ih =>
    by_cases hprefix : key.map some <+: symbol :: rest
    · obtain ⟨behind, hbehind⟩ := hprefix
      exact Or.inr ⟨[], behind, hbehind.symm⟩
    · rw [cut_cons hprefix] at hhidden
      obtain ⟨hsymbol, hrest⟩ := not_or.mp (mt List.mem_cons.mpr hhidden)
      obtain ⟨a, rfl⟩ := Option.ne_none_iff_exists'.mp (Ne.symm hsymbol)
      rcases ih hrest with hfull | ⟨before, behind, rfl⟩
      · exact Or.inl (by simp [hfull])
      · exact Or.inr ⟨a :: before, behind, rfl⟩

/-- So no secret moves its first occurrence. -/
theorem prefix_of_hidden
    (hhidden : none ∉ cut (key.map some) (some separator) template)
    (h : key <+: fill secret template) : key.map some <+: template := by
  rcases key_before_slot hhidden with hfull | ⟨before, rest, rfl⟩
  · obtain ⟨text, rfl⟩ := exists_text hfull
    rw [fill_map_some] at h
    exact h.map some
  · rw [fill_append, fill_map_some] at h
    have hbefore : key <+: before ++ key :=
      List.prefix_of_prefix_length_le h (List.prefix_append _ _) (by simp)
    exact (hbefore.map some).trans (List.prefix_append _ _)

/-- The cut of the text is then the cut of the template for every secret without separators. -/
theorem cut_fill_hidden (hkey : key ≠ []) (hsecret : separator ∉ secret)
    (hhidden : none ∉ cut (key.map some) (some separator) template) :
    cut key separator (fill secret template) =
      fill secret (cut (key.map some) (some separator) template) := by
  induction template with
  | nil => rfl
  | cons symbol rest ih =>
    by_cases hprefix : key.map some <+: symbol :: rest
    · exact cut_fill_at_key hkey hsecret hprefix
    · have hnot : ¬ key <+: fill secret (symbol :: rest) := mt (prefix_of_hidden hhidden) hprefix
      rw [cut_cons hprefix] at hhidden ⊢
      obtain ⟨hsymbol, hrest⟩ := not_or.mp (mt List.mem_cons.mpr hhidden)
      obtain ⟨a, rfl⟩ := Option.ne_none_iff_exists'.mp (Ne.symm hsymbol)
      rw [fill_some] at hnot ⊢
      rw [cut_cons hnot, ih hrest, fill_some]

/-- A separator in the secret leaves its tail behind. -/
theorem length_cut_fill (hkey : key ≠ []) (hsecret : separator ∈ secret) (hslot : none ∈ template)
    (hhidden : none ∉ cut (key.map some) (some separator) template) :
    (fill [] (cut (key.map some) (some separator) template)).length <
      (cut key separator (fill secret template)).length := by
  induction template with
  | nil => cases hslot
  | cons symbol rest ih =>
    by_cases hprefix : key.map some <+: symbol :: rest
    · have hkey' : key.map some ≠ [] := by simpa using hkey
      rw [cut_at_key hkey' hprefix] at hhidden ⊢
      obtain ⟨behind, hbehind⟩ := hprefix
      rw [← hbehind] at hslot hhidden ⊢
      rw [List.drop_left] at hhidden ⊢
      have hkept : none ∉ behind.dropWhile (· ≠ some separator) :=
        fun hmem => hhidden (List.mem_append_right _ hmem)
      have hblanked : none ∈ behind.takeWhile (· ≠ some separator) := by
        have hmem : none ∈ behind := by simpa using hslot
        rw [← List.takeWhile_append_dropWhile (p := (· ≠ some separator)) (l := behind)] at hmem
        exact (List.mem_append.mp hmem).resolve_right hkept
      have htail := length_dropWhile_append (mem_fill hblanked hsecret)
        (fill secret (behind.dropWhile (· ≠ some separator)))
      rw [← fill_append, List.takeWhile_append_dropWhile] at htail
      have hprefix : key <+: key ++ fill secret behind := List.prefix_append _ _
      rw [fill_append, fill_append, fill_map_some, fill_map_some, cut_at_key hkey hprefix,
        List.drop_left, List.length_append, List.length_append, fill_of_full hkept [] secret]
      omega
    · have hnot : ¬ key <+: fill secret (symbol :: rest) := mt (prefix_of_hidden hhidden) hprefix
      rw [cut_cons hprefix] at hhidden ⊢
      obtain ⟨hsymbol, hrest⟩ := not_or.mp (mt List.mem_cons.mpr hhidden)
      obtain ⟨a, rfl⟩ := Option.ne_none_iff_exists'.mp (Ne.symm hsymbol)
      have hlater : none ∈ rest := (List.mem_cons.mp hslot).resolve_left hsymbol
      rw [fill_some] at hnot ⊢
      rw [fill_some, cut_cons hnot, List.length_cons, List.length_cons]
      exact Nat.succ_lt_succ (ih hlater hrest)

/-- What stands behind a separator is not skipped. -/
theorem mem_dropWhile_append {a : α} {rest : List α} (h : a ∈ rest) (front : List α) :
    a ∈ (front ++ separator :: rest).dropWhile (· ≠ separator) := by
  induction front with
  | nil => simp [h]
  | cons b front ih =>
    by_cases hb : b = separator
    · simp [hb, h]
    · rwa [List.cons_append, List.dropWhile_cons_of_pos (by simpa using hb)]

/-- With the only slot behind the key, it is blanked unless the key occurs earlier. -/
theorem slot_hidden_iff (hkey : key ≠ []) (hseparator : separator ∉ key) (front : List α) :
    none ∉ cut (key.map some) (some separator)
        (front.map some ++ some separator :: (key.map some ++ [none])) ↔ ¬ key <:+: front := by
  have hkey' : key.map some ≠ [] := by simpa using hkey
  have hseparator' : some separator ∉ key.map some := by simpa using hseparator
  have hstart : ∀ text : List α, key.map some <+:
      text.map some ++ some separator :: (key.map some ++ [none]) ↔ key <+: text := by
    intro text
    rw [prefix_append_separator hseparator']
    exact ⟨fun h => by simpa using h.filterMap id, fun h => h.map some⟩
  induction front with
  | nil =>
    have hnot := mt (hstart []).mp (by simpa using hkey)
    rw [List.map_nil, List.nil_append] at hnot ⊢
    rw [cut_cons hnot, cut_at_key hkey' (List.prefix_append _ _), List.drop_left]
    simp [hkey]
  | cons a front ih =>
    by_cases hprefix : key <+: a :: front
    · obtain ⟨behind, hbehind⟩ := hprefix
      rw [cut_at_key hkey' ((hstart _).mpr ⟨behind, hbehind⟩), ← hbehind, List.map_append,
        List.append_assoc, List.drop_left]
      have hkept : none ∈ (behind.map some ++ some separator :: (key.map some ++ [none])).dropWhile
          (· ≠ some separator) := mem_dropWhile_append (by simp) _
      exact iff_of_false (fun h => h (List.mem_append_right _ hkept))
        (fun h => h (List.prefix_append key behind).isInfix)
    · have hnot := mt (hstart (a :: front)).mp hprefix
      rw [List.map_cons, List.cons_append] at hnot ⊢
      rw [cut_cons hnot, List.infix_cons_iff, or_iff_right hprefix]
      simpa using ih

/-- **What the cut text tells.** In a template with a slot, the cut text for a secret is
that for every secret without separators exactly when the cut of the template has
no slot and the secret has no separator either. -/
theorem cut_fill_eq_iff (hkey : key ≠ []) (hslot : none ∈ template)
    (hfresh : ∃ a, a ∉ key ∧ a ≠ separator) :
    (∀ secret', secret' ≠ [] → separator ∉ secret' →
        cut key separator (fill secret template) = cut key separator (fill secret' template)) ↔
      none ∉ cut (key.map some) (some separator) template ∧ separator ∉ secret := by
  constructor
  · intro hsame
    obtain ⟨a, hkeyFresh, hne⟩ := hfresh
    have hfill : ∀ n, cut key separator (fill secret template) =
        fill (List.replicate (n + 1) a) (cut (key.map some) (some separator) template) := by
      intro n
      have hmem : ∀ b ∈ List.replicate (n + 1) a, b = a := fun b hb => (List.mem_replicate.mp hb).2
      have hnonempty : List.replicate (n + 1) a ≠ [] := by simp
      have hseparator : separator ∉ List.replicate (n + 1) a := fun hb => hne (hmem _ hb).symm
      rw [hsame _ hnonempty hseparator]
      exact cut_fill_fresh hkey hnonempty hseparator fun b hb => (hmem b hb).symm ▸ hkeyFresh
    have hhidden : none ∉ cut (key.map some) (some separator) template :=
      full_of_fill_eq ((hfill 0).symm.trans (hfill 1)) (by simp)
    refine ⟨hhidden, fun hsecret => ?_⟩
    have hlength := length_cut_fill hkey hsecret hslot hhidden
    rw [hfill 0, fill_of_full hhidden [] (List.replicate (0 + 1) a)] at hlength
    exact Nat.lt_irrefl _ hlength
  · rintro ⟨hhidden, hsecret⟩ secret' _ hsecret'
    rw [cut_fill_hidden hkey hsecret hhidden, cut_fill_hidden hkey hsecret' hhidden]
    exact fill_of_full hhidden _ _

end Cut

end QtAppBase.Library
