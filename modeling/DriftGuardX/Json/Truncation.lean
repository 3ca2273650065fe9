import DriftGuardX.Json.Text

/-!
# Truncated texts

What the reader has read does not change when more text follows, except that an atom at the end may
go on. Strings, arrays and objects end with a mark of their own. So a text that holds an object is
no beginning of another text that does (`parse_truncated`): where a message is cut off, the rest of
it cannot be read.
-/

namespace DriftGuardX.Json

variable {F : Type}

/-! ## Strings -/

theorem scanUnits_append {cs rest : List Char} {us : List ℕ} (h : scanUnits cs = some (us, rest))
    (t : List Char) : scanUnits (cs ++ t) = some (us, rest ++ t) := by
  induction cs using scanUnits.induct generalizing us rest with
  | case1 => exact absurd h (by simp [scanUnits])
  | case2 cs =>
    rw [scanUnits] at h
    obtain ⟨rfl, rfl⟩ := Prod.mk.inj (Option.some.inj h)
    rw [List.cons_append, scanUnits]
  | case3 a b c d cs ih =>
    rw [scanUnits, Option.bind_eq_some_iff] at h
    obtain ⟨u, hu, h⟩ := h
    obtain ⟨p, hp, heq⟩ := Option.map_eq_some_iff.mp h
    obtain ⟨rfl, rfl⟩ := Prod.mk.inj heq
    simp only [List.cons_append]
    rw [scanUnits, hu, Option.bind_some, ih hp, Option.map_some]
  | case4 e cs hne ih =>
    rw [scanUnits, Option.bind_eq_some_iff] at h
    · obtain ⟨c, hc, h⟩ := h
      obtain ⟨p, hp, heq⟩ := Option.map_eq_some_iff.mp h
      obtain ⟨rfl, rfl⟩ := Prod.mk.inj heq
      rw [List.cons_append, List.cons_append, scanUnits, hc, Option.bind_some, ih hp,
        Option.map_some]
      -- no short escape is written with `u`
      rintro _ _ _ _ _ rfl -
      have hnone : shortUnescape 'u' = none := by decide
      exact absurd (hnone.symm.trans hc) (by simp)
    · exact hne
  | case5 c cs hquote hhex hshort hlt =>
    rw [scanUnits, if_pos hlt] at h
    · exact absurd h (by simp)
    all_goals assumption
  | case6 c cs hquote hhex hshort hge ih =>
    rw [scanUnits, if_neg hge] at h
    · obtain ⟨p, hp, heq⟩ := Option.map_eq_some_iff.mp h
      obtain ⟨rfl, rfl⟩ := Prod.mk.inj heq
      -- a backslash is followed by something, so it was read as an escape before
      have hne : c ≠ '\x5c' := by
        rintro rfl
        cases cs with
        | nil => exact absurd hp (by simp [scanUnits])
        | cons e cs => exact hshort e cs rfl rfl
      rw [List.cons_append, scanUnits, if_neg hge, ih hp, Option.map_some]
      · exact hquote
      · exact fun _ _ _ _ _ hc _ ↦ hne hc
      · exact fun _ _ hc _ ↦ hne hc
    all_goals assumption

theorem parseString_append {cs rest : List Char} {s : String} (h : parseString cs = some (s, rest))
    (t : List Char) : parseString (cs ++ t) = some (s, rest ++ t) := by
  rw [parseString, Option.bind_eq_some_iff] at h
  obtain ⟨p, hp, h⟩ := h
  obtain ⟨u, hu, heq⟩ := Option.map_eq_some_iff.mp h
  obtain ⟨rfl, rfl⟩ := Prod.mk.inj heq
  rw [parseString, scanUnits_append hp, Option.bind_some, hu, Option.map_some]

theorem skipSpace_append {cs : List Char} (h : skipSpace cs ≠ []) (t : List Char) :
    skipSpace (cs ++ t) = skipSpace cs ++ t := by
  induction cs with
  | nil => exact absurd rfl h
  | cons b cs ih =>
    by_cases hb : isSpace b = true
    · have hskip : ∀ cs, skipSpace (b :: cs) = skipSpace cs :=
        fun cs ↦ List.dropWhile_cons_of_pos hb
      rw [hskip] at h
      rw [List.cons_append, hskip, hskip, ih h]
    · rw [Bool.not_eq_true] at hb
      rw [List.cons_append, skipSpace_cons hb, skipSpace_cons hb, List.cons_append]

theorem skipSpace_append_cons {cs rest : List Char} {c : Char} (h : skipSpace cs = c :: rest)
    (t : List Char) : skipSpace (cs ++ t) = c :: (rest ++ t) := by
  rw [skipSpace_append (by rw [h]; exact List.cons_ne_nil _ _), h, List.cons_append]

/-! ## Values -/

section Values

variable [FloatText F]

/-- The text of the document ends with a mark of its own. -/
def Doc.Closed : Doc F → Prop
  | .scalar a => a.isStr = true
  | _ => True

theorem isStr_of_atomOfText {cs : List Char} {a : Scalar F} (h : atomOfText cs = some a) :
    a.isStr = false := by
  rw [atomOfText] at h
  split_ifs at h
  · exact Option.some.inj h ▸ rfl
  · exact Option.some.inj h ▸ rfl
  · exact Option.some.inj h ▸ rfl
  · split at h
    · exact Option.some.inj h ▸ rfl
    · obtain ⟨f, -, rfl⟩ := Option.map_eq_some_iff.mp h
      rfl

theorem atom_append {cs : List Char} (h : cs.dropWhile isAtomChar ≠ []) (t : List Char) :
    (cs ++ t).takeWhile isAtomChar = cs.takeWhile isAtomChar ∧
      (cs ++ t).dropWhile isAtomChar = cs.dropWhile isAtomChar ++ t := by
  induction cs with
  | nil => exact absurd rfl h
  | cons c cs ih =>
    by_cases hc : isAtomChar c = true
    · rw [List.dropWhile_cons_of_pos hc] at h ⊢
      rw [List.cons_append, List.takeWhile_cons_of_pos hc, List.takeWhile_cons_of_pos hc,
        List.dropWhile_cons_of_pos hc, (ih h).1]
      exact ⟨rfl, (ih h).2⟩
    · rw [List.cons_append, List.takeWhile_cons_of_neg hc, List.takeWhile_cons_of_neg hc,
        List.dropWhile_cons_of_neg hc, List.dropWhile_cons_of_neg hc]
      exact ⟨rfl, rfl⟩

/-- What is read with some fuel is read with more of it and of a longer text. -/
structure Extends (F : Type) [FloatText F] (n : ℕ) : Prop where
  value : ∀ {cs : List Char} {d : Doc F} {rest : List Char}, parseValue n cs = some (d, rest) →
    d.Closed ∨ rest ≠ [] → ∀ m ≥ n, ∀ t, parseValue m (cs ++ t) = some (d, rest ++ t)
  items : ∀ {cs : List Char} {ds : List (Doc F)} {rest : List Char},
    parseItems n cs = some (ds, rest) → ∀ m ≥ n, ∀ t, parseItems m (cs ++ t) = some (ds, rest ++ t)
  members : ∀ {cs : List Char} {ms : List (String × Doc F)} {rest : List Char},
    parseMembers n cs = some (ms, rest) →
      ∀ m ≥ n, ∀ t, parseMembers m (cs ++ t) = some (ms, rest ++ t)

theorem extends_zero : Extends F 0 where
  value h := absurd h (by simp [parseValue])
  items h := absurd h (by simp [parseItems])
  members h := absurd h (by simp [parseMembers])

theorem eq_nil_of_parseValue_nil {n : ℕ} {d : Doc F} {rest : List Char}
    (h : parseValue n [] = some (d, rest)) : rest = [] := by
  cases n with
  | zero => exact absurd h (by simp [parseValue])
  | succ n =>
    rw [parseValue] at h
    · obtain ⟨a, -, heq⟩ := Option.map_eq_some_iff.mp h
      exact (Prod.mk.inj heq).2.symm
    all_goals simp

theorem parseItems_nil (n : ℕ) : parseItems n [] = (none : Option (List (Doc F) × List Char)) := by
  cases n with
  | zero => rfl
  | succ n =>
    rw [parseItems, Option.bind_eq_none_iff]
    intro p hp
    rw [eq_nil_of_parseValue_nil hp]
    rfl

theorem parseMembers_nil (n : ℕ) :
    parseMembers n [] = (none : Option (List (String × Doc F) × List Char)) := by
  cases n with
  | zero => rfl
  | succ n => rfl

variable {n : ℕ}

theorem Extends.items_succ (h : Extends F n) {cs : List Char} {ds : List (Doc F)}
    {rest : List Char} (hread : parseItems (n + 1) cs = some (ds, rest)) (m : ℕ) (hm : n + 1 ≤ m)
    (t : List Char) : parseItems m (cs ++ t) = some (ds, rest ++ t) := by
  obtain ⟨m, rfl⟩ : ∃ k, m = k + 1 := ⟨m - 1, by omega⟩
  rw [parseItems, Option.bind_eq_some_iff] at hread
  obtain ⟨p, hp, hread⟩ := hread
  -- something follows the value
  have hne : p.2 ≠ [] := by
    intro hnil
    rw [hnil] at hread
    exact absurd hread (by simp [skipSpace])
  rw [parseItems, h.value hp (Or.inr hne) m (by omega), Option.bind_some]
  split at hread
  · rename_i cs' hspace
    obtain ⟨rfl, rfl⟩ := Prod.mk.inj (Option.some.inj hread)
    simp only [skipSpace_append_cons hspace]
  · rename_i cs' hspace
    obtain ⟨q, hq, heq⟩ := Option.map_eq_some_iff.mp hread
    obtain ⟨rfl, rfl⟩ := Prod.mk.inj heq
    have hspace' : skipSpace cs' ≠ [] := by
      intro hnil
      rw [hnil, parseItems_nil] at hq
      exact absurd hq (by simp)
    simp only [skipSpace_append_cons hspace]
    rw [skipSpace_append hspace', h.items hq m (by omega), Option.map_some]
  · exact absurd hread (by simp)

theorem Extends.members_succ (h : Extends F n) {cs : List Char} {ms : List (String × Doc F)}
    {rest : List Char} (hread : parseMembers (n + 1) cs = some (ms, rest)) (m : ℕ)
    (hm : n + 1 ≤ m) (t : List Char) : parseMembers m (cs ++ t) = some (ms, rest ++ t) := by
  obtain ⟨m, rfl⟩ : ∃ k, m = k + 1 := ⟨m - 1, by omega⟩
  unfold parseMembers at hread
  split at hread
  · rename_i cs' _
    obtain ⟨k, hk, hread⟩ := Option.bind_eq_some_iff.mp hread
    rw [List.cons_append, parseMembers]
    simp only [parseString_append hk, Option.bind_some]
    split at hread
    · rename_i cs'' hcolon
      obtain ⟨p, hp, hread⟩ := Option.bind_eq_some_iff.mp hread
      have hne : p.2 ≠ [] := by
        intro hnil
        rw [hnil] at hread
        exact absurd hread (by simp [skipSpace])
      have hspace : skipSpace cs'' ≠ [] := by
        intro hnil
        rw [hnil] at hp
        exact hne (eq_nil_of_parseValue_nil hp)
      simp only [skipSpace_append_cons hcolon]
      rw [skipSpace_append hspace, h.value hp (Or.inr hne) m (by omega), Option.bind_some]
      split at hread
      · rename_i cs₃ hclose
        obtain ⟨rfl, rfl⟩ := Prod.mk.inj (Option.some.inj hread)
        simp only [skipSpace_append_cons hclose]
      · rename_i cs₃ hcomma
        obtain ⟨q, hq, heq⟩ := Option.map_eq_some_iff.mp hread
        obtain ⟨rfl, rfl⟩ := Prod.mk.inj heq
        have hspace' : skipSpace cs₃ ≠ [] := by
          intro hnil
          rw [hnil, parseMembers_nil] at hq
          exact absurd hq (by simp)
        simp only [skipSpace_append_cons hcomma]
        rw [skipSpace_append hspace', h.members hq m (by omega), Option.map_some]
      · exact absurd hread (by simp)
    · exact absurd hread (by simp)
  · exact absurd hread (by simp)

theorem parseValue_arr {cs : List Char} {q : List (Doc F) × List Char}
    (hne : ∀ rest, skipSpace cs ≠ ']' :: rest) (h : parseItems n (skipSpace cs) = some q) :
    parseValue (n + 1) ('[' :: cs) = some (.arr q.1, q.2) := by
  rw [parseValue]
  split
  · rename_i hspace
    exact absurd hspace (hne _)
  · rw [h, Option.map_some]

theorem parseValue_obj {cs : List Char} {q : List (String × Doc F) × List Char}
    (hne : ∀ rest, skipSpace cs ≠ '\x7d' :: rest) (h : parseMembers n (skipSpace cs) = some q) :
    parseValue (n + 1) ('\x7b' :: cs) = some (.obj q.1, q.2) := by
  rw [parseValue]
  split
  · rename_i hspace
    exact absurd hspace (hne _)
  · rw [h, Option.map_some]

theorem skipSpace_append_ne_cons {cs : List Char} {c : Char} (hne : skipSpace cs ≠ [])
    (h : ∀ rest, skipSpace cs ≠ c :: rest) (t rest : List Char) :
    skipSpace (cs ++ t) ≠ c :: rest := by
  rw [skipSpace_append hne]
  obtain ⟨b, bs, hb⟩ := List.exists_cons_of_ne_nil hne
  rw [hb, List.cons_append]
  intro heq
  exact h bs (by rw [hb, (List.cons.inj heq).1])

theorem Extends.value_succ (h : Extends F n) {cs : List Char} {d : Doc F} {rest : List Char}
    (hread : parseValue (n + 1) cs = some (d, rest)) (hclosed : d.Closed ∨ rest ≠ []) (m : ℕ)
    (hm : n + 1 ≤ m) (t : List Char) : parseValue m (cs ++ t) = some (d, rest ++ t) := by
  obtain ⟨m, rfl⟩ : ∃ k, m = k + 1 := ⟨m - 1, by omega⟩
  unfold parseValue at hread
  split at hread
  · obtain ⟨p, hp, heq⟩ := Option.map_eq_some_iff.mp hread
    obtain ⟨rfl, rfl⟩ := Prod.mk.inj heq
    rw [List.cons_append, parseValue, parseString_append hp, Option.map_some]
  · rename_i cs'
    split at hread
    · rename_i cs'' hspace
      obtain ⟨rfl, rfl⟩ := Prod.mk.inj (Option.some.inj hread)
      rw [List.cons_append, parseValue]
      simp only [skipSpace_append_cons hspace]
    · rename_i hne
      obtain ⟨p, hp, heq⟩ := Option.map_eq_some_iff.mp hread
      obtain ⟨rfl, rfl⟩ := Prod.mk.inj heq
      have hspace : skipSpace cs' ≠ [] := by
        intro hnil
        rw [hnil, parseItems_nil] at hp
        exact absurd hp (by simp)
      rw [List.cons_append, parseValue_arr (q := (p.1, p.2 ++ t))
        (skipSpace_append_ne_cons hspace hne t)]
      rw [skipSpace_append hspace]
      exact h.items hp m (by omega) t
  · rename_i cs'
    split at hread
    · rename_i cs'' hspace
      obtain ⟨rfl, rfl⟩ := Prod.mk.inj (Option.some.inj hread)
      rw [List.cons_append, parseValue]
      simp only [skipSpace_append_cons hspace]
    · rename_i hne
      obtain ⟨p, hp, heq⟩ := Option.map_eq_some_iff.mp hread
      obtain ⟨rfl, rfl⟩ := Prod.mk.inj heq
      have hspace : skipSpace cs' ≠ [] := by
        intro hnil
        rw [hnil, parseMembers_nil] at hp
        exact absurd hp (by simp)
      rw [List.cons_append, parseValue_obj (q := (p.1, p.2 ++ t))
        (skipSpace_append_ne_cons hspace hne t)]
      rw [skipSpace_append hspace]
      exact h.members hp m (by omega) t
  -- an atom, which something follows
  · rename_i hquote hbracket hbrace
    obtain ⟨a, ha, heq⟩ := Option.map_eq_some_iff.mp hread
    obtain ⟨rfl, rfl⟩ := Prod.mk.inj heq
    have hrest : cs.dropWhile isAtomChar ≠ [] := by
      refine hclosed.resolve_left fun hstr ↦ ?_
      rw [Doc.Closed, isStr_of_atomOfText ha] at hstr
      exact Bool.false_ne_true hstr
    obtain ⟨htake, hdrop⟩ := atom_append hrest t
    obtain ⟨c, cs, rfl⟩ : ∃ c cs', cs = c :: cs' :=
      List.exists_cons_of_ne_nil fun hnil ↦ hrest (by rw [hnil]; rfl)
    rw [parseValue, htake, ha, hdrop, Option.map_some]
    · exact fun cs' heq ↦ hquote cs (by rw [(List.cons.inj heq).1])
    · exact fun cs' heq ↦ hbracket cs (by rw [(List.cons.inj heq).1])
    · exact fun cs' heq ↦ hbrace cs (by rw [(List.cons.inj heq).1])

theorem extends_all (n : ℕ) : Extends F n := by
  induction n with
  | zero => exact extends_zero
  | succ n ih => exact ⟨ih.value_succ, ih.items_succ, ih.members_succ⟩

/-- **Truncated texts.** No text that can be read goes on as the text of an object. -/
theorem parse_truncated {st : Style} {ms : List (String × Doc F)} {s t : Text}
    (h : s ++ t = render st (.obj ms)) (ht : t ≠ []) : parse s = (none : Option (Doc F)) := by
  rw [Option.eq_none_iff_forall_ne_some]
  intro d hd
  obtain ⟨c, cs, hcs, hspace, -⟩ := exists_head_render st (.obj ms : Doc F)
  have hread := reads_render st (.obj ms) (render st (.obj ms)).length [] le_rfl
    (by rintro _ _ ⟨⟩)
  rw [List.append_nil] at hread
  cases s with
  | nil => exact absurd hd (by simp [parse, skipSpace, parseValue])
  | cons b s =>
    -- the text starts with a brace, so an object was read
    have hb : b = '\x7b' := by
      cases ms <;> rw [render] at h <;> exact (List.cons.inj h).1
    subst hb
    rw [parse, skipSpace_cons (by decide)] at hd
    split at hd
    · rename_i d' rest hvalue
      have hclosed : d'.Closed := by
        rw [List.length_cons, parseValue] at hvalue
        split at hvalue
        · obtain ⟨rfl, -⟩ := Prod.mk.inj (Option.some.inj hvalue)
          trivial
        · obtain ⟨p, -, heq⟩ := Option.map_eq_some_iff.mp hvalue
          exact (Prod.mk.inj heq).1 ▸ trivial
      have hlonger := (extends_all _).value hvalue (Or.inl hclosed) (render st (.obj ms)).length
        (by rw [← h, List.length_append]; omega) t
      rw [h, hread] at hlonger
      exact ht (List.append_eq_nil_iff.mp (Prod.mk.inj (Option.some.inj hlonger)).2.symm).2
    · exact absurd hd (by simp)

end Values

end DriftGuardX.Json
