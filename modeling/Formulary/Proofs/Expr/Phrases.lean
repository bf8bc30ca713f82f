import Formulary.Proofs.Expr.Lexing

/-!
# Phrases: the grammar on tokens

The layers of the grammar with tokens in place of characters, and the reader that groups
tokens into forms.

* `readersSound` — what the readers take from the start of the tokens is a phrase;
* `reads_of_phrase` — a phrase is read whole, if what follows cannot go on with it, with
  eight steps for every token;
* `phrase_of_writes`, `writes_of_phrase` — phrases and written forms are the same, token by
  token.
-/

namespace Formulary.Grammar

/-! ## Phrases -/

mutual

/-- The tokens of a form at a level. -/
inductive Phrase : Nat → Form → List Token → Prop
  | binary (op : BinaryOp) {left right : Form} {l r : List Token} :
      Phrase op.level left l → Phrase (op.level + 1) right r →
      Phrase op.level (.binary op left right) (l ++ .op op :: r)
  | tighter {level : Nat} {form : Form} {t : List Token} : level < 6 →
      Phrase (level + 1) form t → Phrase level form t
  | neg {operand : Form} {t : List Token} : Phrase 5 operand t →
      Phrase 5 (.neg operand) (.op .sub :: t)
  | literal (value : WrittenLiteral) : Phrase 6 (.literal value) [.literal value]
  | path (segments : List (List Char)) : Phrase 6 (.path segments) [.path segments]
  | call (name : List Char) {args : List Form} {t : List Token} : PhraseArgs args t →
      Phrase 6 (.call name args) (.path [name] :: .opening :: (t ++ [.closing]))
  | parens {form : Form} {t : List Token} : Phrase 0 form t →
      Phrase 6 form (.opening :: (t ++ [.closing]))

/-- The tokens of the arguments of a call, between its parentheses. -/
inductive PhraseArgs : List Form → List Token → Prop
  | none : PhraseArgs [] []
  | one {arg : Form} {t : List Token} : Phrase 0 arg t → PhraseArgs [arg] t
  | more {arg next : Form} {args : List Form} {t r : List Token} : Phrase 0 arg t →
      PhraseArgs (next :: args) r → PhraseArgs (arg :: next :: args) (t ++ .comma :: r)

end

/-! ## What the reader takes is a phrase -/

/-- The four readers at one amount of fuel. -/
structure ReadersSound (fuel : Nat) : Prop where
  level : ∀ {level t form rest}, level ≤ 5 →
    Form.readLevel fuel level t = .ok (form, rest) →
    ∃ used, t = used ++ rest ∧ Phrase level form used
  more : ∀ {level left l t form rest}, level < 5 → Phrase level left l →
    Form.readMore fuel level left t = .ok (form, rest) →
    ∃ used, t = used ++ rest ∧ Phrase level form (l ++ used)
  operand : ∀ {t form rest}, Form.readOperand fuel t = .ok (form, rest) →
    ∃ used, t = used ++ rest ∧ Phrase 5 form used
  args : ∀ {t args rest}, Form.readArguments fuel t = .ok (args, rest) →
    ∃ arg tail used, args = arg :: tail ∧ t = used ++ .closing :: rest ∧ PhraseArgs args used

/-! ### One more step of fuel -/

section Steps

variable {fuel : Nat} (ih : ReadersSound fuel)

include ih

theorem readLevel_sound {level : Nat} {t rest : List Token} {form : Form} (hl : level ≤ 5)
    (h : Form.readLevel (fuel + 1) level t = .ok (form, rest)) :
    ∃ used, t = used ++ rest ∧ Phrase level form used := by
  unfold Form.readLevel at h
  split at h
  · next hlt =>
    split at h
    · contradiction
    · next left between hleft =>
      obtain ⟨l, rfl, hp⟩ := ih.level (by omega) hleft
      obtain ⟨used, rfl, hform⟩ := ih.more hlt (.tighter (by omega) hp) h
      exact ⟨l ++ used, by simp, hform⟩
  · obtain rfl : level = 5 := by omega
    exact ih.operand h

theorem readMore_sound {level : Nat} {left : Form} {l t rest : List Token} {form : Form}
    (hl : level < 5) (hleft : Phrase level left l)
    (h : Form.readMore (fuel + 1) level left t = .ok (form, rest)) :
    ∃ used, t = used ++ rest ∧ Phrase level form (l ++ used) := by
  unfold Form.readMore at h
  split at h
  · next op between =>
    split at h
    · next hop =>
      subst hop
      split at h
      · contradiction
      · next right behind hright =>
        obtain ⟨r, rfl, hp⟩ := ih.level (by omega) hright
        obtain ⟨used, rfl, hform⟩ := ih.more hl (.binary op hleft hp) h
        exact ⟨.op op :: (r ++ used), by simp, by simpa using hform⟩
    · obtain ⟨rfl, rfl⟩ := Prod.mk.inj (Except.ok.inj h)
      exact ⟨[], rfl, by simpa using hleft⟩
  · obtain ⟨rfl, rfl⟩ := Prod.mk.inj (Except.ok.inj h)
    exact ⟨[], rfl, by simpa using hleft⟩

theorem readOperand_sound {t rest : List Token} {form : Form}
    (h : Form.readOperand (fuel + 1) t = .ok (form, rest)) :
    ∃ used, t = used ++ rest ∧ Phrase 5 form used := by
  unfold Form.readOperand at h
  split at h
  · next between =>
    split at h
    · contradiction
    · next operand behind hoperand =>
      obtain ⟨rfl, rfl⟩ := Prod.mk.inj (Except.ok.inj h)
      obtain ⟨used, rfl, hp⟩ := ih.operand hoperand
      exact ⟨.op .sub :: used, rfl, .neg hp⟩
  · obtain ⟨rfl, rfl⟩ := Prod.mk.inj (Except.ok.inj h)
    exact ⟨[_], rfl, .tighter (by omega) (.literal _)⟩
  · obtain ⟨rfl, rfl⟩ := Prod.mk.inj (Except.ok.inj h)
    exact ⟨[_, _, _], rfl, .tighter (by omega) (.call _ .none)⟩
  · split at h
    · contradiction
    · next args behind hargs =>
      obtain ⟨rfl, rfl⟩ := Prod.mk.inj (Except.ok.inj h)
      obtain ⟨arg, tail, used, -, rfl, hp⟩ := ih.args hargs
      exact ⟨_, by simp, .tighter (by omega) (.call _ hp)⟩
  · obtain ⟨rfl, rfl⟩ := Prod.mk.inj (Except.ok.inj h)
    exact ⟨[_], rfl, .tighter (by omega) (.path _)⟩
  · split at h
    · contradiction
    · next inner behind hinner =>
      obtain ⟨rfl, rfl⟩ := Prod.mk.inj (Except.ok.inj h)
      obtain ⟨used, rfl, hp⟩ := ih.level (by omega) hinner
      exact ⟨_, by simp, .tighter (by omega) (.parens hp)⟩
    · contradiction
  · contradiction

theorem readArguments_sound {t rest : List Token} {args : List Form}
    (h : Form.readArguments (fuel + 1) t = .ok (args, rest)) :
    ∃ arg tail used, args = arg :: tail ∧ t = used ++ .closing :: rest ∧ PhraseArgs args used := by
  unfold Form.readArguments at h
  split at h
  · contradiction
  · next arg behind harg =>
    obtain ⟨rfl, rfl⟩ := Prod.mk.inj (Except.ok.inj h)
    obtain ⟨used, rfl, hp⟩ := ih.level (by omega) harg
    exact ⟨_, _, used, rfl, rfl, .one hp⟩
  · next arg behind harg =>
    split at h
    · contradiction
    · next more after hmore =>
      obtain ⟨rfl, rfl⟩ := Prod.mk.inj (Except.ok.inj h)
      obtain ⟨used, rfl, hp⟩ := ih.level (by omega) harg
      obtain ⟨next, tail, r, rfl, rfl, hr⟩ := ih.args hmore
      exact ⟨_, _, used ++ .comma :: r, rfl, by simp, .more hp hr⟩
  · contradiction

end Steps

theorem readersSound (fuel : Nat) : ReadersSound fuel := by
  induction fuel with
  | zero =>
    refine ⟨?_, ?_, ?_, ?_⟩
    · intro level t form rest _ h
      simp [Form.readLevel] at h
    · intro level left l t form rest _ _ h
      simp [Form.readMore] at h
    · intro t form rest h
      simp [Form.readOperand] at h
    · intro t args rest h
      simp [Form.readArguments] at h
  | succ fuel ih =>
    exact ⟨readLevel_sound ih, readMore_sound ih, readOperand_sound ih, readArguments_sound ih⟩

theorem phrase_of_ofTokens {t : List Token} {form : Form} (h : Form.ofTokens t = .ok form) :
    Phrase 0 form t := by
  unfold Form.ofTokens at h
  split at h
  · contradiction
  · next read hread =>
    obtain rfl := Except.ok.inj h
    obtain ⟨used, rfl, hp⟩ := (readersSound _).level (by omega) hread
    simpa using hp
  · contradiction

/-! ## A phrase is read whole -/

/-- The tokens cannot go on with a form at a level: no parenthesis is opened, and an
operator is looser. -/
def Closed (level : Nat) (rest : List Token) : Prop :=
  ∀ token r, rest = token :: r → token ≠ .opening ∧ ∀ op, token = .op op → op.level < level

theorem closed_nil (level : Nat) : Closed level [] := by intro token r h; cases h

theorem closed_closing (level : Nat) (r : List Token) : Closed level (.closing :: r) := by
  intro token r' h; cases h; exact ⟨by simp, by simp⟩

theorem closed_comma (level : Nat) (r : List Token) : Closed level (.comma :: r) := by
  intro token r' h; cases h; exact ⟨by simp, by simp⟩

theorem closed_op {level : Nat} {op : BinaryOp} (h : op.level < level) (r : List Token) :
    Closed level (.op op :: r) := by
  intro token r' h'; cases h'
  refine ⟨by simp, ?_⟩
  intro o ho; cases ho; exact h

theorem Closed.mono {level higher : Nat} {rest : List Token} (h : Closed level rest)
    (hle : level ≤ higher) : Closed higher rest := by
  intro token r hr
  obtain ⟨hopen, hop⟩ := h token r hr
  exact ⟨hopen, fun op ho => Nat.lt_of_lt_of_le (hop op ho) hle⟩

theorem readMore_closed {fuel level : Nat} {left : Form} {rest : List Token}
    (h : Closed level rest) : Form.readMore (fuel + 1) level left rest = .ok (left, rest) := by
  unfold Form.readMore
  split
  · next op r =>
    have := (h (.op op) r rfl).2 op rfl
    rw [if_neg (by omega)]
  · rfl

/-- A phrase has tokens, and the first of them closes nothing. -/
theorem phrase_start {level : Nat} {form : Form} {t : List Token} :
    Phrase level form t → ∃ token r, t = token :: r ∧ token ≠ .closing
  | .binary op hl hr => by
    obtain ⟨token, r, rfl, hne⟩ := phrase_start hl
    exact ⟨token, _, rfl, hne⟩
  | .tighter _ h => phrase_start h
  | .neg h => ⟨_, _, rfl, by simp⟩
  | .literal value => ⟨_, _, rfl, by simp⟩
  | .path segments => ⟨_, _, rfl, by simp⟩
  | .call name h => ⟨_, _, rfl, by simp⟩
  | .parens h => ⟨_, _, rfl, by simp⟩

theorem phrase_length_pos {level : Nat} {form : Form} {t : List Token}
    (h : Phrase level form t) : 0 < t.length := by
  obtain ⟨token, r, rfl, -⟩ := phrase_start h
  simp

/-- The tokens are read as the form at a level.  A level with operators goes on to look for
more of them, with the fuel that is left; every token costs eight steps at most. -/
def Reads (level : Nat) (form : Form) (t : List Token) : Prop :=
  if level < 5 then
    ∀ fuel rest, 8 * t.length ≤ fuel + level → Closed (level + 1) rest →
      ∃ left, fuel ≤ left + t.length ∧
        Form.readLevel fuel level (t ++ rest) = Form.readMore left level form rest
  else
    ∀ fuel rest, 8 * t.length ≤ fuel + 6 → Closed 6 rest →
      Form.readOperand fuel (t ++ rest) = .ok (form, rest)

/-- The tokens are read as the arguments of a call. -/
def ReadsArgs (args : List Form) (t : List Token) : Prop :=
  args ≠ [] → ∀ fuel rest, 8 * t.length + 8 ≤ fuel →
    Form.readArguments fuel (t ++ .closing :: rest) = .ok (args, rest)

/-- If what follows is looser, a level is left with the form. -/
theorem Reads.whole {level : Nat} {form : Form} {t : List Token} (h : Reads level form t)
    (hl : level ≤ 5) (ht : 0 < t.length) {fuel : Nat} {rest : List Token}
    (hf : 8 * t.length ≤ fuel + level) (hr : Closed level rest) :
    Form.readLevel fuel level (t ++ rest) = .ok (form, rest) := by
  unfold Reads at h
  by_cases hlt : level < 5
  · rw [if_pos hlt] at h
    obtain ⟨left, hleft, hread⟩ := h fuel rest hf (hr.mono (by omega))
    obtain ⟨n, rfl⟩ : ∃ n, left = n + 1 := ⟨left - 1, by omega⟩
    rw [hread, readMore_closed hr]
  · rw [if_neg hlt] at h
    obtain rfl : level = 5 := by omega
    obtain ⟨n, rfl⟩ : ∃ n, fuel = n + 1 := ⟨fuel - 1, by omega⟩
    rw [Form.readLevel, if_neg (by omega)]
    exact h n rest (by omega) (hr.mono (by omega))

/-- A form of a tighter level is the first operand of a level. -/
theorem Reads.loosen {level : Nat} {form : Form} {t : List Token} (hl : level < 6)
    (ht : 0 < t.length) (h : Reads (level + 1) form t) : Reads level form t := by
  by_cases hlt : level < 5
  · rw [Reads, if_pos hlt]
    intro fuel rest hf hr
    obtain ⟨n, rfl⟩ : ∃ n, fuel = n + 1 := ⟨fuel - 1, by omega⟩
    refine ⟨n, by omega, ?_⟩
    rw [Form.readLevel, if_pos hlt, h.whole (by omega) ht (by omega) hr]
  · obtain rfl : level = 5 := by omega
    unfold Reads at h ⊢
    exact h

theorem Reads.binary (op : BinaryOp) {left right : Form} {l r : List Token}
    (hl : Reads op.level left l) (hr : Reads (op.level + 1) right r) (hlen : 0 < r.length) :
    Reads op.level (.binary op left right) (l ++ .op op :: r) := by
  have hlevel : op.level < 5 := by cases op <;> decide
  rw [Reads, if_pos hlevel] at hl ⊢
  intro fuel rest hf hrest
  simp only [List.length_append, List.length_cons] at hf ⊢
  obtain ⟨more, hmore, hread⟩ :=
    hl fuel (.op op :: (r ++ rest)) (by omega) (closed_op (by omega) _)
  obtain ⟨n, rfl⟩ : ∃ n, more = n + 1 := ⟨more - 1, by omega⟩
  refine ⟨n, by omega, ?_⟩
  rw [List.append_assoc, List.cons_append, hread, Form.readMore, if_pos rfl,
    hr.whole (by omega) hlen (by omega) hrest]

theorem Reads.neg {operand : Form} {t : List Token} (h : Reads 5 operand t) :
    Reads 5 (.neg operand) (.op .sub :: t) := by
  intro fuel rest hf hrest
  rw [List.length_cons] at hf
  obtain ⟨n, rfl⟩ : ∃ n, fuel = n + 1 := ⟨fuel - 1, by omega⟩
  have hread := h n rest (by omega) hrest
  rw [List.cons_append, Form.readOperand, hread]

theorem Reads.path (segments : List (List Char)) : Reads 6 (.path segments) [.path segments] := by
  intro fuel rest hf hrest
  obtain ⟨n, rfl⟩ : ∃ n, fuel = n + 1 := ⟨fuel - 1, by simp at hf; omega⟩
  rw [List.singleton_append]
  unfold Form.readOperand
  -- a parenthesis after the name would make it a call
  split <;> simp_all [Closed]

theorem Reads.call (name : List Char) {args : List Form} {t : List Token}
    (h : ReadsArgs args t) (hempty : args = [] → t = [])
    (hstart : args ≠ [] → ∃ token r, t = token :: r ∧ token ≠ .closing) :
    Reads 6 (.call name args) (.path [name] :: .opening :: (t ++ [.closing])) := by
  intro fuel rest hf hrest
  simp only [List.length_append, List.length_cons, List.length_nil] at hf
  obtain ⟨n, rfl⟩ : ∃ n, fuel = n + 1 := ⟨fuel - 1, by omega⟩
  rw [List.cons_append, List.cons_append, List.append_assoc, List.singleton_append]
  by_cases hargs : args = []
  · rw [hempty hargs, hargs, List.nil_append, Form.readOperand]
  · have hread := h hargs n rest (by omega)
    obtain ⟨token, r, rfl, hne⟩ := hstart hargs
    rw [List.cons_append] at hread ⊢
    rw [Form.readOperand, hread]
    rintro r' h'
    exact hne (List.cons.inj h').1

theorem Reads.parens {form : Form} {t : List Token} (h : Reads 0 form t) (ht : 0 < t.length) :
    Reads 6 form (.opening :: (t ++ [.closing])) := by
  intro fuel rest hf hrest
  simp only [List.length_append, List.length_cons, List.length_nil] at hf
  obtain ⟨n, rfl⟩ : ∃ n, fuel = n + 1 := ⟨fuel - 1, by omega⟩
  rw [List.cons_append, List.append_assoc, List.singleton_append, Form.readOperand,
    h.whole (by omega) ht (by omega) (closed_closing _ _)]

mutual

/-- A phrase is read whole. -/
theorem reads_of_phrase {level : Nat} {form : Form} {t : List Token} :
    Phrase level form t → Reads level form t
  | .binary op hl hr =>
    .binary op (reads_of_phrase hl) (reads_of_phrase hr) (phrase_length_pos hr)
  | .tighter hlt h => .loosen hlt (phrase_length_pos h) (reads_of_phrase h)
  | .neg h => .neg (reads_of_phrase h)
  | .literal value => by
    intro fuel rest hf hrest
    obtain ⟨n, rfl⟩ : ∃ n, fuel = n + 1 := ⟨fuel - 1, by simp at hf; omega⟩
    rfl
  | .path segments => .path segments
  | .call name h => .call name (reads_of_args h) (by cases h <;> simp) fun hne => by
      cases h with
      | none => exact absurd rfl hne
      | one h => exact phrase_start h
      | more h hr =>
        obtain ⟨token, r, rfl, htoken⟩ := phrase_start h
        exact ⟨token, _, rfl, htoken⟩
  | .parens h => .parens (reads_of_phrase h) (phrase_length_pos h)

theorem reads_of_args {args : List Form} {t : List Token} : PhraseArgs args t → ReadsArgs args t
  | .none => fun h => absurd rfl h
  | .one h => by
    intro _ fuel rest hf
    obtain ⟨n, rfl⟩ : ∃ n, fuel = n + 1 := ⟨fuel - 1, by omega⟩
    rw [Form.readArguments, (reads_of_phrase h).whole (by omega) (phrase_length_pos h)
      (by omega) (closed_closing _ _)]
  | .more h hr => by
    intro _ fuel rest hf
    simp only [List.length_append, List.length_cons] at hf
    obtain ⟨n, rfl⟩ : ∃ n, fuel = n + 1 := ⟨fuel - 1, by omega⟩
    have hmore := reads_of_args hr (by simp) n rest (by omega)
    rw [List.append_assoc, List.cons_append, Form.readArguments,
      (reads_of_phrase h).whole (by omega) (phrase_length_pos h) (by omega) (closed_comma _ _)]
    simp only [hmore]

end

theorem ofTokens_of_phrase {t : List Token} {form : Form} (h : Phrase 0 form t) :
    Form.ofTokens t = .ok form := by
  have hread := (reads_of_phrase h).whole (by omega) (phrase_length_pos h)
    (show 8 * t.length ≤ 8 * t.length + 8 + 0 by omega) (closed_nil 0)
  rw [List.append_nil] at hread
  rw [Form.ofTokens, hread]

/-! ## From characters to tokens -/

theorem ends_gap_append {g s : List Char} (hg : Gap g) (hs : Ends s) : Ends (g ++ s) := by
  cases g with
  | nil => exact hs
  | cons c g =>
    refine ends_cons ?_
    rcases hg c (by simp) with rfl | rfl | rfl | rfl <;> decide

theorem ends_op (op : BinaryOp) (s : List Char) : Ends (op.symbol.toList ++ s) := by
  cases op <;> exact ends_cons (by decide)

/-- Blanks and a form after a comparison do not make it another one. -/
theorem bounded_op (op : BinaryOp) {h r : List Char} (hh : Gap h) (hr : Opens r)
    (rest : List Char) : Bounded (.op op) (h ++ (r ++ rest)) := by
  have hhead : (h ++ (r ++ rest)).head? ≠ some '=' := by
    cases h with
    | nil =>
      obtain ⟨c, r, rfl, -, hne⟩ := hr
      simpa using hne
    | cons c h =>
      have := hh c (by simp)
      rintro heq
      obtain rfl : c = '=' := Option.some.inj heq
      simp at this
  cases op with
  | eq | ne | or | and | add | sub | mul | div | ge | le => trivial
  | gt | lt => exact hhead

/-- A written form starts with a token. -/
theorem opens_of_writes {level : Nat} {form : Form} {s : List Char} :
    Writes level form s → Opens s
  | .binary _ hl hg hh hr => by
    simp only [List.append_assoc]
    exact opens_append (opens_of_writes hl) _
  | .tighter _ h => opens_of_writes h
  | .neg hg h => ⟨_, _, rfl, by decide, by decide⟩
  | .literal h => opens_literal h
  | .path hne hnames => opens_path ⟨hne, hnames, rfl⟩
  | .call hname hg h => by rw [List.append_assoc]; exact opens_append (opens_name hname) _
  | .parens hg h hh => ⟨_, _, rfl, by decide, by decide⟩

theorem tokens_op {op : BinaryOp} {rest : List Char} (h : Bounded (.op op) rest) :
    tokens (op.symbol.toList ++ rest) = .op op :: tokens rest := by
  have hw : WritesToken (.op op) op.symbol.toList := rfl
  exact tokens_append hw h

theorem tokens_minus (rest : List Char) : tokens ('-' :: rest) = .op .sub :: tokens rest := by
  have hb : Bounded (.op .sub) rest := trivial
  exact tokens_op hb

theorem tokens_opening (rest : List Char) : tokens ('(' :: rest) = .opening :: tokens rest := by
  have hw : WritesToken .opening ['('] := rfl
  exact tokens_append hw trivial

theorem tokens_closing (rest : List Char) : tokens (')' :: rest) = .closing :: tokens rest := by
  have hw : WritesToken .closing [')'] := rfl
  exact tokens_append hw trivial

theorem tokens_comma (rest : List Char) : tokens (',' :: rest) = .comma :: tokens rest := by
  have hw : WritesToken .comma [','] := rfl
  exact tokens_append hw trivial

theorem tokens_name {name rest : List Char} (h : Name name) (hr : Ends rest) :
    tokens (name ++ rest) = .path [name] :: tokens rest := by
  have hw : WritesToken (.path [name]) name := ⟨by simp, by simpa using h, by simp⟩
  exact tokens_append hw hr

/-- The text is cut into the given tokens, whatever follows that ends them. -/
def Lexes (s : List Char) (t : List Token) : Prop :=
  ∀ rest, Ends rest → tokens (s ++ rest) = t ++ tokens rest

theorem lexes_closing {s : List Char} {t : List Token} (h : Lexes s t) {g : List Char}
    (hg : Gap g) (rest : List Char) :
    tokens (s ++ (g ++ ')' :: rest)) = t ++ .closing :: tokens rest := by
  rw [h _ (ends_gap_append hg (ends_cons (by decide))), tokens_gap_append hg, tokens_closing]

mutual

/-- A written form is cut into the tokens of a phrase. -/
theorem phrase_of_writes {level : Nat} {form : Form} {s : List Char} :
    Writes level form s → ∃ t, Phrase level form t ∧ Lexes s t
  | @Writes.binary op _ _ _ _ _ _ _ _ hop hl hg hh hr => by
    obtain ⟨l, hpl, hll⟩ := phrase_of_writes hl
    obtain ⟨r, hpr, hlr⟩ := phrase_of_writes hr
    obtain ⟨rfl, rfl⟩ := operator_iff.1 hop
    refine ⟨_, .binary op hpl hpr, fun rest hrest => ?_⟩
    simp only [List.append_assoc]
    rw [hll _ (ends_gap_append hg (ends_op op _)), tokens_gap_append hg,
      tokens_op (bounded_op op hh (opens_of_writes hr) rest), tokens_gap_append hh,
      hlr rest hrest, List.cons_append]
  | .tighter hlt h => by
    obtain ⟨t, hp, hl⟩ := phrase_of_writes h
    exact ⟨t, .tighter hlt hp, hl⟩
  | .neg hg h => by
    obtain ⟨t, hp, hl⟩ := phrase_of_writes h
    refine ⟨_, .neg hp, fun rest hrest => ?_⟩
    rw [List.cons_append, List.append_assoc, tokens_minus, tokens_gap_append hg, hl rest hrest,
      List.cons_append]
  | .literal h => by
    refine ⟨_, .literal _, fun rest hrest => ?_⟩
    refine tokens_append h ?_
    cases h with
    | string => trivial
    | _ => exact hrest
  | .path hne hnames =>
    ⟨_, .path _, fun rest hrest => tokens_append ⟨hne, hnames, rfl⟩ hrest⟩
  | .call hname hg h => by
    obtain ⟨t, hp, hl⟩ := phraseArgs_of_writes h
    refine ⟨_, .call _ hp, fun rest hrest => ?_⟩
    simp only [List.append_assoc, List.cons_append, List.nil_append]
    rw [tokens_name hname (ends_gap_append hg (ends_cons (by decide))), tokens_gap_append hg,
      tokens_opening, hl rest]
  | .parens hg h hh => by
    obtain ⟨t, hp, hl⟩ := phrase_of_writes h
    refine ⟨_, .parens hp, fun rest hrest => ?_⟩
    simp only [List.append_assoc, List.cons_append, List.nil_append]
    rw [tokens_opening, tokens_gap_append hg, lexes_closing hl hh]

/-- Written arguments are cut into the tokens of arguments, up to the parenthesis. -/
theorem phraseArgs_of_writes {args : List Form} {s : List Char} :
    WritesArgs args s → ∃ t, PhraseArgs args t ∧
      ∀ rest, tokens (s ++ ')' :: rest) = t ++ .closing :: tokens rest
  | .none hg => by
    refine ⟨[], .none, fun rest => ?_⟩
    rw [tokens_gap_append hg, tokens_closing, List.nil_append]
  | .one hg h hh => by
    obtain ⟨t, hp, hl⟩ := phrase_of_writes h
    refine ⟨t, .one hp, fun rest => ?_⟩
    rw [List.append_assoc, List.append_assoc, tokens_gap_append hg, lexes_closing hl hh]
  | .more hg h hh hr => by
    obtain ⟨t, hp, hl⟩ := phrase_of_writes h
    obtain ⟨r, hpr, hlr⟩ := phraseArgs_of_writes hr
    refine ⟨_, .more hp hpr, fun rest => ?_⟩
    simp only [List.append_assoc, List.cons_append]
    rw [tokens_gap_append hg, hl _ (ends_gap_append hh (ends_cons (by decide))),
      tokens_gap_append hh, tokens_comma, hlr rest]

end

/-! ## From tokens to characters -/

/-- The lexeme has blanks before it and the characters of its token. -/
def Sound (x : Lexeme) : Prop :=
  Gap x.gap ∧ (x.token ≠ .unreadable → WritesToken x.token x.written)

theorem Sound.writes {x : Lexeme} {token : Token} (h : Sound x) (ht : x.token = token)
    (hr : token ≠ .unreadable) : WritesToken token x.written := by
  subst ht
  exact h.2 hr

theorem source_append (a b : List Lexeme) :
    Lexeme.source (a ++ b) = Lexeme.source a ++ Lexeme.source b := by
  simp [Lexeme.source]

theorem source_cons (x : Lexeme) (b : List Lexeme) :
    Lexeme.source (x :: b) = x.gap ++ (x.written ++ Lexeme.source b) := by
  simp [Lexeme.source]

mutual

/-- The lexemes of a phrase are a written form after blanks. -/
theorem writes_of_phrase {level : Nat} {form : Form} {t : List Token} :
    Phrase level form t → ∀ lexemes : List Lexeme, lexemes.map Lexeme.token = t →
      (∀ x ∈ lexemes, Sound x) →
      ∃ g s, Lexeme.source lexemes = g ++ s ∧ Gap g ∧ Writes level form s
  | .binary op hl hr, lexemes, ht, hsound => by
    obtain ⟨a, b, rfl, ha, hb⟩ := List.map_eq_append_iff.1 ht
    obtain ⟨x, b, rfl, hx, hb⟩ := List.map_eq_cons_iff.1 hb
    obtain ⟨g, l, hsl, hg, hwl⟩ :=
      writes_of_phrase hl a ha fun y hy => hsound y (by simp [hy])
    obtain ⟨h, r, hsr, hh, hwr⟩ :=
      writes_of_phrase hr b hb fun y hy => hsound y (by simp [hy])
    have hxs := hsound x (by simp)
    have hw : x.written = op.symbol.toList := hxs.writes hx (by simp)
    refine ⟨g, _, ?_, hg, .binary (operator_iff.2 ⟨rfl, rfl⟩) hwl hxs.1 hh hwr⟩
    rw [source_append, source_cons, hsl, hsr, hw]
    simp only [List.append_assoc]
  | .tighter hlt h, lexemes, ht, hsound => by
    obtain ⟨g, s, hs, hg, hw⟩ := writes_of_phrase h lexemes ht hsound
    exact ⟨g, s, hs, hg, .tighter hlt hw⟩
  | .neg h, lexemes, ht, hsound => by
    obtain ⟨x, b, rfl, hx, hb⟩ := List.map_eq_cons_iff.1 ht
    obtain ⟨g, s, hs, hg, hw⟩ := writes_of_phrase h b hb fun y hy => hsound y (by simp [hy])
    have hxs := hsound x (by simp)
    have hminus : x.written = ['-'] := hxs.writes hx (by simp)
    refine ⟨x.gap, _, ?_, hxs.1, .neg hg hw⟩
    rw [source_cons, hminus, hs, List.singleton_append]
  | .literal value, lexemes, ht, hsound => by
    obtain ⟨x, rfl, hx⟩ := List.map_eq_singleton_iff.1 ht
    have hxs := hsound x (by simp)
    refine ⟨x.gap, x.written, ?_, hxs.1, .literal (hxs.writes hx (by simp))⟩
    simp [Lexeme.source]
  | .path segments, lexemes, ht, hsound => by
    obtain ⟨x, rfl, hx⟩ := List.map_eq_singleton_iff.1 ht
    have hxs := hsound x (by simp)
    obtain ⟨hne, hnames, hw⟩ := hxs.writes hx (by simp)
    refine ⟨x.gap, _, ?_, hxs.1, .path hne hnames⟩
    simp [Lexeme.source, hw]
  | .call name h, lexemes, ht, hsound => by
    obtain ⟨x, b, rfl, hx, hb⟩ := List.map_eq_cons_iff.1 ht
    obtain ⟨y, b, rfl, hy, hyb⟩ := List.map_eq_cons_iff.1 hb
    obtain ⟨inner, e, rfl, hinner, he⟩ := List.map_eq_append_iff.1 hyb
    obtain ⟨z, rfl, hz⟩ := List.map_eq_singleton_iff.1 he
    have hxs := hsound x (by simp)
    have hys := hsound y (by simp)
    have hzs := hsound z (by simp)
    obtain ⟨-, hnames, hname⟩ := hxs.writes hx (by simp)
    have hopen : y.written = ['('] := hys.writes hy (by simp)
    have hclose : z.written = [')'] := hzs.writes hz (by simp)
    have hargs := writesArgs_of_phrase h inner hinner (fun w hw => hsound w (by simp [hw])) hzs.1
    refine ⟨x.gap, _, ?_, hxs.1, .call (hnames name (by simp)) hys.1 hargs⟩
    rw [source_cons, source_cons, source_append, source_cons, hname, hopen, hclose]
    simp [Lexeme.source]
  | .parens h, lexemes, ht, hsound => by
    obtain ⟨x, b, rfl, hx, hb⟩ := List.map_eq_cons_iff.1 ht
    obtain ⟨inner, e, rfl, hinner, he⟩ := List.map_eq_append_iff.1 hb
    obtain ⟨z, rfl, hz⟩ := List.map_eq_singleton_iff.1 he
    have hxs := hsound x (by simp)
    have hzs := hsound z (by simp)
    have hopen : x.written = ['('] := hxs.writes hx (by simp)
    have hclose : z.written = [')'] := hzs.writes hz (by simp)
    obtain ⟨g, s, hs, hg, hw⟩ :=
      writes_of_phrase h inner hinner fun w hw => hsound w (by simp [hw])
    refine ⟨x.gap, _, ?_, hxs.1, .parens hg hw hzs.1⟩
    rw [source_cons, source_append, source_cons, hs, hopen, hclose]
    simp [Lexeme.source]

/-- The lexemes of arguments are written arguments, with blanks after them. -/
theorem writesArgs_of_phrase {args : List Form} {t : List Token} :
    PhraseArgs args t → ∀ lexemes : List Lexeme, lexemes.map Lexeme.token = t →
      (∀ x ∈ lexemes, Sound x) → ∀ {g : List Char}, Gap g →
      WritesArgs args (Lexeme.source lexemes ++ g)
  | .none, lexemes, ht, hsound, g, hg => by
    obtain rfl := List.map_eq_nil_iff.1 ht
    exact .none hg
  | .one h, lexemes, ht, hsound, g, hg => by
    obtain ⟨g', s, hs, hg', hw⟩ := writes_of_phrase h lexemes ht hsound
    rw [hs]
    exact .one hg' hw hg
  | .more h hr, lexemes, ht, hsound, g, hg => by
    obtain ⟨a, b, rfl, ha, hb⟩ := List.map_eq_append_iff.1 ht
    obtain ⟨x, b, rfl, hx, hb⟩ := List.map_eq_cons_iff.1 hb
    have hxs := hsound x (by simp)
    have hcomma : x.written = [','] := hxs.writes hx (by simp)
    obtain ⟨g', s, hs, hg', hw⟩ := writes_of_phrase h a ha fun y hy => hsound y (by simp [hy])
    have hrest := writesArgs_of_phrase hr b hb (fun y hy => hsound y (by simp [hy])) hg
    have heq : Lexeme.source (a ++ x :: b) ++ g
        = g' ++ s ++ x.gap ++ ',' :: (Lexeme.source b ++ g) := by
      rw [source_append, source_cons, hs, hcomma]
      simp
    rw [heq]
    exact .more hg' hw hxs.1 hrest

end

end Formulary.Grammar
