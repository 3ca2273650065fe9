import DriftGuardX.Json.Text

/-!
# JSON with a layout

The encoder with `indent`: white space after an opening bracket and a comma, and before a closing
bracket. How much is given by the nesting. The reader skips it, so what is printed is read back
whatever the layout (`parse_layout`).
-/

namespace DriftGuardX.Json

variable {F : Type} [FloatText F]

section Printing

variable (ascii : Bool) (gap : ℕ → List Char)

mutual

/-- The text of a document at some nesting. -/
def layout : ℕ → Doc F → List Char
  | _, .scalar a => scalarText ⟨ascii, false⟩ a
  | _, .arr [] => ['[', ']']
  | n, .arr (d :: ds) => '[' :: (gap (n + 1) ++ (layout (n + 1) d ++ layoutItems n ds))
  | _, .obj [] => ['\x7b', '\x7d']
  | n, .obj ((k, d) :: ms) => '\x7b' :: (gap (n + 1) ++
      (stringText ⟨ascii, false⟩ k ++ (':' :: ' ' :: (layout (n + 1) d ++ layoutMembers n ms))))

/-- The items of an array after the first, with the closing bracket. -/
def layoutItems : ℕ → List (Doc F) → List Char
  | n, [] => gap n ++ [']']
  | n, d :: ds => ',' :: (gap (n + 1) ++ (layout (n + 1) d ++ layoutItems n ds))

/-- The members of an object after the first, with the closing brace. -/
def layoutMembers : ℕ → List (String × Doc F) → List Char
  | n, [] => gap n ++ ['\x7d']
  | n, (k, d) :: ms => ',' :: (gap (n + 1) ++
      (stringText ⟨ascii, false⟩ k ++ (':' :: ' ' :: (layout (n + 1) d ++ layoutMembers n ms))))

end

end Printing

/-- A new line and some spaces for each nesting. -/
def indentGap (indent n : ℕ) : List Char := '\x0a' :: List.replicate (indent * n) ' '

/-- `json.dumps` with `indent`: the text of a value, or nothing when the encoder raises. -/
def dumpsIndent (indent : ℕ) (v : Val F) : Option Text :=
  (toDoc false v).map (layout true (indentGap indent) 0)

/-! ## Reading -/

/-- White space only. -/
def Blank (gap : ℕ → List Char) : Prop := ∀ n, ∀ c ∈ gap n, isSpace c = true

theorem blank_indentGap (indent : ℕ) : Blank (indentGap indent) := by
  intro n c hc
  obtain rfl | hc := List.mem_cons.mp hc
  · decide
  · rw [List.eq_of_mem_replicate hc]
    decide

section Reading

variable {ascii : Bool} {gap : ℕ → List Char} (hgap : Blank gap)

include hgap

theorem skipSpace_gap (n : ℕ) (cs : List Char) : skipSpace (gap n ++ cs) = skipSpace cs := by
  rw [skipSpace, List.dropWhile_append_of_pos (hgap n), skipSpace]

theorem ends_gap (n : ℕ) {cs : List Char} (h : Ends cs) : Ends (gap n ++ cs) := by
  cases hn : gap n with
  | nil => exact h
  | cons c ws =>
    refine ends_cons ?_ _
    by_contra hatom
    have hspace := hgap n c (by rw [hn]; exact List.mem_cons_self)
    rw [isSpace_of_isAtomChar (Bool.not_eq_false _ ▸ hatom)] at hspace
    exact absurd hspace (by simp)

omit hgap in
theorem exists_head_layout (ascii : Bool) (gap : ℕ → List Char) (n : ℕ) (d : Doc F) :
    ∃ c cs, layout ascii gap n d = c :: cs ∧ isSpace c = false ∧ c ≠ ']' ∧ c ≠ '\x7d' := by
  cases d with
  | scalar a =>
    obtain ⟨c, cs, h⟩ := exists_head_render ⟨ascii, false⟩ (.scalar a : Doc F)
    rw [render] at h
    exact ⟨c, cs, by rw [layout]; exact h.1, h.2⟩
  | arr ds => cases ds with
    | nil => exact ⟨_, _, by rw [layout], by decide⟩
    | cons d ds => exact ⟨_, _, by rw [layout], by decide⟩
  | obj ms => cases ms with
    | nil => exact ⟨_, _, by rw [layout], by decide⟩
    | cons m ms => exact ⟨_, _, by rw [layout], by decide⟩

omit hgap in
theorem skipSpace_layout (ascii : Bool) (gap : ℕ → List Char) (n : ℕ) (d : Doc F)
    (rest : List Char) :
    skipSpace (layout ascii gap n d ++ rest) = layout ascii gap n d ++ rest := by
  obtain ⟨c, cs, h, hs, -⟩ := exists_head_layout ascii gap n d
  rw [h, List.cons_append, skipSpace_cons hs]

omit hgap in
theorem length_layout_pos (ascii : Bool) (gap : ℕ → List Char) (n : ℕ) (d : Doc F) :
    0 < (layout ascii gap n d).length := by
  obtain ⟨c, cs, h, -⟩ := exists_head_layout ascii gap n d
  rw [h]
  simp

/-- What the induction carries for one document, at every nesting. -/
def ReadsLayout (ascii : Bool) (gap : ℕ → List Char) (d : Doc F) : Prop :=
  ∀ n fuel rest, (layout ascii gap n d).length ≤ fuel → Ends rest →
    parseValue fuel (layout ascii gap n d ++ rest) = some (d, rest)

theorem ends_layoutItems (n : ℕ) (ds : List (Doc F)) (rest : List Char) :
    Ends (layoutItems ascii gap n ds ++ rest) := by
  cases ds with
  | nil =>
    rw [layoutItems, List.append_assoc]
    exact ends_gap hgap n (ends_cons (by decide) _)
  | cons d ds =>
    rw [layoutItems]
    exact ends_cons (by decide) _

theorem ends_layoutMembers (n : ℕ) (ms : List (String × Doc F)) (rest : List Char) :
    Ends (layoutMembers ascii gap n ms ++ rest) := by
  cases ms with
  | nil =>
    rw [layoutMembers, List.append_assoc]
    exact ends_gap hgap n (ends_cons (by decide) _)
  | cons m ms =>
    rw [layoutMembers]
    exact ends_cons (by decide) _

/-- The items of an array, by induction on the list with the documents' own hypotheses. -/
theorem parseItems_layout (n : ℕ) (ds : List (Doc F)) : ∀ (d : Doc F) (fuel : ℕ) (rest : List Char),
    ReadsLayout ascii gap d → (∀ e ∈ ds, ReadsLayout ascii gap e) →
    (layout ascii gap (n + 1) d ++ layoutItems ascii gap n ds).length ≤ fuel →
    parseItems fuel (layout ascii gap (n + 1) d ++ (layoutItems ascii gap n ds ++ rest))
      = some (d :: ds, rest) := by
  induction ds with
  | nil =>
    intro d fuel rest hd _ hfuel
    rw [List.length_append, layoutItems, List.length_append, List.length_singleton] at hfuel
    obtain ⟨fuel, rfl⟩ : ∃ m, fuel = m + 1 := ⟨fuel - 1, by omega⟩
    rw [parseItems, hd _ fuel _ (by omega) (ends_layoutItems hgap n [] rest), Option.bind_some,
      layoutItems, List.append_assoc]
    simp only [skipSpace_gap hgap]
    rw [List.singleton_append, skipSpace_cons (by decide)]
    rfl
  | cons e ds ih =>
    intro d fuel rest hd hds hfuel
    have hpos := length_layout_pos ascii gap (n + 1) d
    rw [List.length_append] at hfuel
    have hlen : (layout ascii gap (n + 1) e ++ layoutItems ascii gap n ds).length ≤ fuel - 1 := by
      rw [layoutItems, List.length_cons, List.length_append] at hfuel
      omega
    rw [layoutItems, List.length_cons] at hfuel
    obtain ⟨fuel, rfl⟩ : ∃ m, fuel = m + 1 := ⟨fuel - 1, by omega⟩
    rw [parseItems, hd _ fuel _ (by omega) (ends_layoutItems hgap n (e :: ds) rest), Option.bind_some,
      layoutItems, List.cons_append, skipSpace_cons (by decide), List.append_assoc, List.append_assoc]
    simp only [skipSpace_gap hgap, skipSpace_layout]
    rw [ih e fuel rest (hds e List.mem_cons_self) (fun x hx ↦ hds x (List.mem_cons_of_mem e hx))
      (by simpa using hlen)]
    rfl

omit hgap in
/-- One member: its key and its value are read, and what comes after them is left. -/
theorem parseMembers_member {n fuel : ℕ} {k : String} {d : Doc F} {rest : List Char}
    (hd : ReadsLayout ascii gap d) (hfuel : (layout ascii gap (n + 1) d).length ≤ fuel)
    (hrest : Ends rest) :
    parseMembers (fuel + 1) (stringText ⟨ascii, false⟩ k ++
        (':' :: ' ' :: (layout ascii gap (n + 1) d ++ rest)))
      = match skipSpace rest with
        | '\x7d' :: cs => some ([(k, d)], cs)
        | ',' :: cs => (parseMembers fuel (skipSpace cs)).map fun q ↦ ((k, d) :: q.1, q.2)
        | _ => none := by
  obtain ⟨t, ht, hk⟩ := parseString_stringText ⟨ascii, false⟩ k
    (':' :: ' ' :: (layout ascii gap (n + 1) d ++ rest))
  have hspace : skipSpace (' ' :: (layout ascii gap (n + 1) d ++ rest))
      = layout ascii gap (n + 1) d ++ rest := by
    rw [skipSpace, List.dropWhile_cons_of_pos (by decide)]
    exact skipSpace_layout ascii gap _ d rest
  rw [ht]
  generalize hparsed : parseMembers (F := F) (fuel + 1) ('\x22' :: t) = parsed
  rw [parseMembers] at hparsed
  simp only [hk, Option.bind_some, skipSpace_cons (c := ':') (by decide), hspace,
    hd _ fuel rest hfuel hrest] at hparsed
  exact hparsed.symm

/-- The members of an object, in the same way. -/
theorem parseMembers_layout (n : ℕ) (ms : List (String × Doc F)) :
    ∀ (k : String) (d : Doc F) (fuel : ℕ) (rest : List Char), ReadsLayout ascii gap d →
      (∀ m ∈ ms, ReadsLayout ascii gap m.2) →
      (layout ascii gap (n + 1) d ++ layoutMembers ascii gap n ms).length + 1 ≤ fuel →
      parseMembers fuel (stringText ⟨ascii, false⟩ k ++
          (':' :: ' ' :: (layout ascii gap (n + 1) d ++ (layoutMembers ascii gap n ms ++ rest))))
        = some ((k, d) :: ms, rest) := by
  induction ms with
  | nil =>
    intro k d fuel rest hd _ hfuel
    rw [List.length_append] at hfuel
    obtain ⟨fuel, rfl⟩ : ∃ m, fuel = m + 1 := ⟨fuel - 1, by omega⟩
    rw [parseMembers_member hd (by omega) (ends_layoutMembers hgap n [] rest), layoutMembers,
      List.append_assoc, skipSpace_gap hgap, List.singleton_append, skipSpace_cons (by decide)]
    rfl
  | cons m ms ih =>
    obtain ⟨j, e⟩ := m
    intro k d fuel rest hd hms hfuel
    rw [List.length_append] at hfuel
    have hlen :
        (layout ascii gap (n + 1) e ++ layoutMembers ascii gap n ms).length + 1 ≤ fuel - 1 := by
      have hpos := length_layout_pos ascii gap (n + 1) d
      rw [layoutMembers, List.length_cons, List.length_append, List.length_append, List.length_cons,
        List.length_cons] at hfuel
      omega
    obtain ⟨fuel, rfl⟩ : ∃ m, fuel = m + 1 := ⟨fuel - 1, by omega⟩
    rw [parseMembers_member hd (by omega) (ends_layoutMembers hgap n ((j, e) :: ms) rest),
      layoutMembers, List.cons_append, skipSpace_cons (by decide)]
    simp only [List.append_assoc, List.cons_append, skipSpace_gap hgap, skipSpace_stringText]
    rw [ih j e fuel rest (hms _ List.mem_cons_self) (fun x hx ↦ hms x (List.mem_cons_of_mem _ hx))
      (by simpa using hlen)]
    rfl

theorem readsLayout (ascii : Bool) (d : Doc F) : ReadsLayout ascii gap d := by
  induction d using Doc.induct with
  | scalar a =>
    intro n fuel rest hfuel hrest
    have hread := reads_scalar ⟨ascii, false⟩ a fuel rest
    rw [render] at hread
    rw [layout] at hfuel ⊢
    exact hread hfuel hrest
  | arr ds ih =>
    intro n fuel rest hfuel hrest
    cases ds with
    | nil =>
      rw [layout] at hfuel ⊢
      obtain ⟨fuel, rfl⟩ : ∃ m, fuel = m + 1 := ⟨fuel - 1, by simp at hfuel; omega⟩
      rw [List.cons_append, parseValue, List.singleton_append, skipSpace_cons (by decide)]
      rfl
    | cons d ds =>
      rw [layout, List.length_cons, List.length_append] at hfuel
      obtain ⟨fuel, rfl⟩ : ∃ m, fuel = m + 1 := ⟨fuel - 1, by omega⟩
      obtain ⟨c, cs, hc, -, hne, -⟩ := exists_head_layout ascii gap (n + 1) d
      rw [layout, List.cons_append, List.append_assoc, List.append_assoc, parseValue,
        skipSpace_gap hgap, skipSpace_layout]
      split
      · rename_i h
        rw [hc, List.cons_append, List.cons.injEq] at h
        exact absurd h.1 hne
      · rw [parseItems_layout hgap n ds d fuel rest (ih d List.mem_cons_self)
          (fun e he ↦ ih e (List.mem_cons_of_mem d he)) (by omega)]
        rfl
  | obj ms ih =>
    intro n fuel rest hfuel hrest
    cases ms with
    | nil =>
      rw [layout] at hfuel ⊢
      obtain ⟨fuel, rfl⟩ : ∃ m, fuel = m + 1 := ⟨fuel - 1, by simp at hfuel; omega⟩
      rw [List.cons_append, parseValue, List.singleton_append, skipSpace_cons (by decide)]
      rfl
    | cons m ms =>
      obtain ⟨k, d⟩ := m
      rw [layout, List.length_cons, List.length_append, List.length_append, List.length_cons,
        List.length_cons] at hfuel
      obtain ⟨fuel, rfl⟩ : ∃ m, fuel = m + 1 := ⟨fuel - 1, by omega⟩
      rw [layout, List.cons_append]
      simp only [List.append_assoc, List.cons_append]
      rw [parseValue, skipSpace_gap hgap, skipSpace_stringText]
      split
      · rename_i h
        rw [stringText, List.cons_append, List.cons.injEq] at h
        exact absurd h.1 (by decide)
      · rw [parseMembers_layout hgap n ms k d fuel rest (ih _ List.mem_cons_self)
          (fun e he ↦ ih e (List.mem_cons_of_mem _ he)) (by omega)]
        rfl

/-- **The round trip**, whatever the layout. -/
theorem parse_layout (d : Doc F) : parse (layout ascii gap 0 d) = some d := by
  have hread := readsLayout hgap ascii d 0 (layout ascii gap 0 d).length [] le_rfl
    (by rintro _ _ ⟨⟩)
  have hskip := skipSpace_layout ascii gap 0 d []
  rw [List.append_nil] at hread hskip
  rw [parse, hskip, hread]
  rfl

end Reading

theorem loads_of_dumpsIndent {indent : ℕ} {v : Val F} {d : Doc F} {text : Text}
    (hd : toDoc false v = some d) (h : dumpsIndent indent v = some text) :
    loads text = some (ofDoc d) := by
  rw [dumpsIndent, hd, Option.map_some, Option.some_inj] at h
  rw [← h, loads, parse_layout (blank_indentGap indent), Option.map_some]

end DriftGuardX.Json
