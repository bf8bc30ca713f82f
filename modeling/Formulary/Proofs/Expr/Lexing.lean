import Formulary.Proofs.Expr.Grammar

/-!
# Tokens and the grammar

The characters of a token, as the grammar has them, and the longest-match rule that cuts
a text into tokens.

* `first_sound` — what is cut off at the start of a text writes the token;
* `first_complete` — a written token is cut off again, if what follows cannot go on with it;
* `tokens_append` — the same for a token with blanks before it in a whole text.
-/

namespace Formulary.Grammar

open Token (isGap keyword? word? name? moreSegments segmentsLength quoted? number nameOrKeyword
  mark?)

/-! ## Classes of characters -/

theorem isAlpha_iff_toNat {c : Char} : c.isAlpha = true ↔
    (65 ≤ c.toNat ∧ c.toNat ≤ 90) ∨ (97 ≤ c.toNat ∧ c.toNat ≤ 122) := by
  have hupper : c.isUpper = true ↔ 65 ≤ c.toNat ∧ c.toNat ≤ 90 := decide_eq_true_iff
  have hlower : c.isLower = true ↔ 97 ≤ c.toNat ∧ c.toNat ≤ 122 :=
    Bool.and_eq_true_iff.trans (and_congr decide_eq_true_iff decide_eq_true_iff)
  rw [← hupper, ← hlower]
  exact Bool.or_eq_true_iff

/-- Letters, digits and the underscore lie between the blank and the delete character. -/
theorem toNat_of_isIdentifierChar {c : Char} (h : Text.isIdentifierChar c = true) :
    32 < c.toNat ∧ c.toNat < 127 := by
  simp only [Text.isIdentifierChar, Char.isAlphanum, Bool.or_eq_true, isAlpha_iff_toNat,
    Char.isDigit_iff_toNat, beq_iff_eq] at h
  have : '0'.toNat = 48 := rfl
  have : '9'.toNat = 57 := rfl
  rcases h with ((h | h) | h) | rfl
  · omega
  · omega
  · omega
  · decide

theorem isBlank_of_isIdentifierChar {c : Char} (h : Text.isIdentifierChar c = true) :
    Text.isBlank c = false := by
  obtain ⟨hlow, hhigh⟩ := toNat_of_isIdentifierChar h
  rw [Text.isBlank, Text.inRanges, List.any_eq_false]
  intro range hr
  have hranges : ∀ r ∈ Text.blankRanges, r.2 ≤ 32 ∨ 127 ≤ r.1 := by decide
  have := hranges range hr
  simp only [Bool.and_eq_true, decide_eq_true_eq]
  omega

theorem isIdentifierStart_of_isDigit {c : Char} (h : c.isDigit = true) :
    Text.isIdentifierStart c = false := by
  rw [Char.isDigit_iff_toNat] at h
  have hc : ¬ c.isAlpha = true := by
    rw [isAlpha_iff_toNat]
    have : '9'.toNat = 57 := rfl
    omega
  simp only [Text.isIdentifierStart, Bool.or_eq_false_iff]
  refine ⟨by simpa using hc, ?_⟩
  rw [beq_eq_false_iff_ne]
  rintro rfl
  exact absurd h (by decide)

theorem isIdentifierChar_of_start {c : Char} (h : Text.isIdentifierStart c = true) :
    Text.isIdentifierChar c = true := by
  simp only [Text.isIdentifierStart, Text.isIdentifierChar, Char.isAlphanum,
    Bool.or_eq_true] at h ⊢
  rcases h with h | h
  · exact .inl (.inl h)
  · exact .inr h

theorem isIdentifierChar_of_isDigit {c : Char} (h : c.isDigit = true) :
    Text.isIdentifierChar c = true := by
  simp [Text.isIdentifierChar, Char.isAlphanum, h]

theorem isGap_iff {c : Char} :
    isGap c = true ↔ c = ' ' ∨ c = '\t' ∨ c = '\r' ∨ c = '\n' := by
  simp [isGap, or_assoc]

theorem isGap_of_isBlank {c : Char} (h : Text.isBlank c = false) : isGap c = false := by
  cases hg : isGap c with
  | false => rfl
  | true => rcases isGap_iff.1 hg with rfl | rfl | rfl | rfl <;> exact absurd h (by decide)

/-- A letter stays a letter when it is put in lower case, and nothing else becomes one. -/
theorem isAlpha_of_toLower {c : Char} (h : c.toLower.isLower = true) : c.isAlpha = true := by
  by_cases hu : c.isUpper = true
  · exact Bool.or_eq_true_iff.2 (.inl hu)
  · have hc : c.toLower = c := by
      unfold Char.toLower
      rw [dif_neg]
      exact fun hbounds => hu (decide_eq_true hbounds)
    rw [hc] at h
    exact Bool.or_eq_true_iff.2 (.inr h)

/-- No token goes on with the text: it does not start with a letter, a digit, an
underscore or a point. -/
def Ends (rest : List Char) : Prop :=
  ∀ c r, rest = c :: r → Text.isIdentifierChar c = false ∧ c ≠ '.'

theorem ends_nil : Ends [] := by intro c r h; cases h

theorem ends_cons {c : Char} {r : List Char} (h : Text.isIdentifierChar c = false ∧ c ≠ '.') :
    Ends (c :: r) := by
  intro c' r' h'; cases h'; exact h

/-! ## Runs of characters -/

theorem takeWhile_run {p : Char → Bool} {s rest : List Char} (hs : ∀ c ∈ s, p c = true)
    (hr : ∀ c r, rest = c :: r → p c = false) : (s ++ rest).takeWhile p = s := by
  induction s with
  | nil =>
    cases rest with
    | nil => rfl
    | cons c r => simp [hr c r rfl]
  | cons c s ih =>
    have hc := hs c (by simp)
    simp [hc, ih (fun x hx => hs x (by simp [hx]))]

theorem dropWhile_run {p : Char → Bool} {s rest : List Char} (hs : ∀ c ∈ s, p c = true)
    (hr : ∀ c r, rest = c :: r → p c = false) : (s ++ rest).dropWhile p = rest := by
  have h := List.takeWhile_append_dropWhile (p := p) (l := s ++ rest)
  rw [takeWhile_run hs hr] at h
  exact List.append_cancel_left h

theorem take_takeWhile (p : Char → Bool) (s : List Char) :
    s.take (s.takeWhile p).length = s.takeWhile p := by
  conv => lhs; arg 2; rw [← List.takeWhile_append_dropWhile (p := p) (l := s)]
  exact List.take_left

theorem drop_takeWhile (p : Char → Bool) (s : List Char) :
    s.drop (s.takeWhile p).length = s.dropWhile p := by
  conv => lhs; arg 2; rw [← List.takeWhile_append_dropWhile (p := p) (l := s)]
  exact List.drop_left

theorem mem_takeWhile {p : Char → Bool} {s : List Char} {c : Char} (h : c ∈ s.takeWhile p) :
    p c = true :=
  List.all_eq_true.1 List.all_takeWhile c h

/-! ## The characters of a token -/

/-- The characters of a token. -/
def WritesToken : Token → List Char → Prop
  | .literal value, s => WritesLiteral value s
  | .path segments, s =>
    segments ≠ [] ∧ (∀ segment ∈ segments, Name segment) ∧ s = ['.'].intercalate segments
  | .op op, s => s = op.symbol.toList
  | .opening, s => s = ['(']
  | .closing, s => s = [')']
  | .comma, s => s = [',']
  | .unreadable, _ => False

/-- What may follow a token without becoming part of it. -/
def Bounded : Token → List Char → Prop
  | .literal (.string _), _ => True
  | .literal _, rest => Ends rest
  | .path _, rest => Ends rest
  | .op .gt, rest => rest.head? ≠ some '='
  | .op .lt, rest => rest.head? ≠ some '='
  | _, _ => True

/-! ## Keywords -/

theorem keyword?_null {s : List Char} (h : NullWord s) : keyword? s = some .null := by
  unfold keyword?
  rcases h with h | h <;> rw [h] <;> decide

theorem keyword?_bool {b : Bool} {s : List Char} (h : BoolWord b s) :
    keyword? s = some (.bool b) := by
  unfold keyword?
  cases b with
  | true =>
    rw [show s.map Char.toLower = "true".toList from h]
    decide
  | false =>
    rw [show s.map Char.toLower = "false".toList from h]
    decide

/-- The words with a meaning are those of null and of the truth values. -/
theorem keyword?_sound {s : List Char} {value : WrittenLiteral} (h : keyword? s = some value) :
    (value = .null ∧ NullWord s) ∨ ∃ b, value = .bool b ∧ BoolWord b s := by
  simp only [keyword?] at h
  split at h
  · next ht => exact .inr ⟨true, (Option.some.inj h).symm, ht⟩
  · split at h
    · next hf => exact .inr ⟨false, (Option.some.inj h).symm, hf⟩
    · split at h
      · next hn => exact .inl ⟨(Option.some.inj h).symm, hn⟩
      · contradiction

theorem keyword?_eq_none_iff {s : List Char} :
    keyword? s = none ↔ ¬ NullWord s ∧ ∀ b, ¬ BoolWord b s := by
  constructor
  · intro h
    refine ⟨fun hn => ?_, fun b hb => ?_⟩
    · rw [keyword?_null hn] at h; contradiction
    · rw [keyword?_bool hb] at h; contradiction
  · rintro ⟨hn, hb⟩
    cases h : keyword? s with
    | none => rfl
    | some value =>
      rcases keyword?_sound h with ⟨-, hw⟩ | ⟨b, -, hw⟩
      · exact absurd hw hn
      · exact absurd hw (hb b)

/-! ## Names and paths -/

instance (s : List Char) : Decidable (Name s) :=
  decidable_of_iff (Text.IsName s ∧ keyword? s = none)
    (and_congr_right fun _ => keyword?_eq_none_iff)

theorem name_cons {c : Char} {s : List Char} (h : Name (c :: s)) :
    Text.isIdentifierStart c = true ∧ ∀ x ∈ s, Text.isIdentifierChar x = true := by
  have hn := Text.isIdentifierChars_iff.2 h.1
  simp only [Text.isIdentifierChars, Bool.and_eq_true, List.all_eq_true] at hn
  exact hn

theorem name_ne_nil {s : List Char} (h : Name s) : s ≠ [] := by
  obtain ⟨c, rest, rfl, -⟩ := h.1
  exact List.cons_ne_nil c rest

/-- A word that starts as a name does and stands for no literal is a name. -/
theorem name_of_word {c : Char} {rest : List Char} (hc : Text.isIdentifierStart c = true)
    (hk : keyword? (c :: rest.takeWhile Text.isIdentifierChar) = none) :
    Name (c :: rest.takeWhile Text.isIdentifierChar) := by
  refine ⟨Text.isIdentifierChars_iff.1 ?_, keyword?_eq_none_iff.1 hk⟩
  simp only [Text.isIdentifierChars, hc, Bool.true_and, List.all_eq_true]
  exact fun x hx => mem_takeWhile hx

/-- The word cut off at the start of a text is a name if it stands for no literal. -/
theorem name?_sound {s name : List Char} (h : name? s = some name) :
    Name name ∧ s.take name.length = name := by
  simp only [name?, Option.filter_eq_some_iff] at h
  obtain ⟨hw, hk⟩ := h
  cases s with
  | nil => simp [word?] at hw
  | cons c rest =>
    simp only [word?] at hw
    split at hw
    · next hc =>
      obtain rfl := Option.some.inj hw
      exact ⟨name_of_word hc (Option.isNone_iff_eq_none.1 hk), by simp [take_takeWhile]⟩
    · contradiction

/-- A name is cut off again, if what follows does not go on with it. -/
theorem name?_complete {name rest : List Char} (h : Name name)
    (hr : ∀ c r, rest = c :: r → Text.isIdentifierChar c = false) :
    name? (name ++ rest) = some name := by
  cases name with
  | nil => exact absurd rfl (name_ne_nil h)
  | cons c s =>
    obtain ⟨hc, hs⟩ := name_cons h
    have hk := keyword?_eq_none_iff.2 h.2
    simp [name?, word?, hc, takeWhile_run hs hr, hk]

/-- The further segments of a path with the points before them. -/
def dotted (segments : List (List Char)) : List Char :=
  segments.flatMap fun segment => '.' :: segment

theorem intercalate_eq_dotted (name : List Char) (segments : List (List Char)) :
    ['.'].intercalate (name :: segments) = name ++ dotted segments := by
  induction segments generalizing name with
  | nil => simp [dotted]
  | cons next segments ih =>
    rw [List.intercalate_cons_cons, ih next]
    simp [dotted]

theorem length_dotted (segments : List (List Char)) :
    (dotted segments).length = segmentsLength segments := by
  induction segments with
  | nil => rfl
  | cons segment segments ih =>
    simp only [dotted, segmentsLength, List.flatMap_cons, List.length_append,
      List.length_cons, List.foldr_cons] at ih ⊢
    omega

theorem moreSegments_sound (s : List Char) :
    s.take (segmentsLength (moreSegments s)) = dotted (moreSegments s) ∧
      ∀ segment ∈ moreSegments s, Name segment := by
  fun_induction moreSegments s with
  | case1 rest name h ih =>
    obtain ⟨hn, ht⟩ := name?_sound h
    refine ⟨?_, ?_⟩
    · have hl : segmentsLength (name :: moreSegments (rest.drop name.length))
          = (name.length + segmentsLength (moreSegments (rest.drop name.length))) + 1 := by
        simp only [segmentsLength, List.foldr_cons]
        omega
      rw [hl, List.take_succ_cons, List.take_add, ht, ih.1]
      rfl
    · intro segment hm
      rcases List.mem_cons.1 hm with rfl | hm
      · exact hn
      · exact ih.2 segment hm
  | case2 rest h => simp [segmentsLength, dotted]
  | case3 s h => simp [segmentsLength, dotted]

/-- Further segments are cut off again, if what follows does not go on with them. -/
theorem moreSegments_complete {segments : List (List Char)} {rest : List Char}
    (h : ∀ segment ∈ segments, Name segment) (hr : Ends rest) :
    moreSegments (dotted segments ++ rest) = segments := by
  induction segments with
  | nil =>
    cases rest with
    | nil => rw [dotted, List.flatMap_nil, List.append_nil, moreSegments]; simp
    | cons c r =>
      have hc := (hr c r rfl).2
      simp only [dotted, List.flatMap_nil, List.nil_append]
      rw [moreSegments]
      rintro r' h'
      cases h'
      exact hc rfl
  | cons name segments ih =>
    have hname := h name (by simp)
    have hn : name? (name ++ (dotted segments ++ rest)) = some name := by
      refine name?_complete hname ?_
      intro c r hcr
      cases segments with
      | nil => exact (hr c r hcr).1
      | cons next segments =>
        simp only [dotted, List.flatMap_cons, List.cons_append, List.cons.injEq] at hcr
        rw [← hcr.1]
        decide
    have hd : dotted (name :: segments) ++ rest = '.' :: (name ++ (dotted segments ++ rest)) := by
      simp [dotted]
    rw [hd, moreSegments, hn]
    simp only [List.drop_left]
    rw [ih fun segment hm => h segment (List.mem_cons_of_mem _ hm)]

/-! ## Quoted texts -/

theorem quoted?_sound {quote : Char} {s value : List Char} {count : Nat}
    (h : quoted? quote s = some (value, count)) :
    ∃ body, s.take count = body ++ [quote] ∧ Quoted quote value body := by
  fun_induction quoted? quote s generalizing value count with
  | case1 => contradiction
  | case2 => contradiction
  | case3 c rest ih =>
    simp only [Option.map_eq_some_iff, Prod.exists] at h
    obtain ⟨v, n, hv, heq⟩ := h
    obtain ⟨rfl, rfl⟩ := Prod.mk.inj heq
    obtain ⟨body, ht, hq⟩ := ih hv
    exact ⟨'\\' :: c :: body, by simp [ht], .escaped (escape_iff.2 rfl) hq⟩
  | case4 rest h1 h2 =>
    obtain ⟨rfl, rfl⟩ := Prod.mk.inj (Option.some.inj h)
    exact ⟨[], rfl, .nil⟩
  | case5 c rest h1 h2 hc ih =>
    simp only [Option.map_eq_some_iff, Prod.exists] at h
    obtain ⟨v, n, hv, heq⟩ := h
    obtain ⟨rfl, rfl⟩ := Prod.mk.inj heq
    obtain ⟨body, ht, hq⟩ := ih hv
    refine ⟨c :: body, by simp [ht], .plain hc ?_ hq⟩
    -- a backslash has something after it here, and that was the case of an escape
    rintro rfl
    cases rest with
    | nil => exact h1 rfl rfl
    | cons x rest => exact h2 x rest rfl rfl

/-- What stands between two quotes is read to the second one, whatever follows. -/
theorem quoted?_complete {quote : Char} {value body : List Char} (rest : List Char)
    (hq : quote = '\'' ∨ quote = '"') (h : Quoted quote value body) :
    quoted? quote (body ++ quote :: rest) = some (value, body.length + 1) := by
  induction h with
  | nil =>
    rw [List.nil_append, quoted?, if_pos rfl]
    · rfl
    · rintro rfl; rcases hq with hq | hq <;> cases hq
    · rintro x y rfl; rcases hq with hq | hq <;> cases hq
  | @plain c value body hc hb h ih =>
    rw [List.cons_append, quoted?, if_neg hc, ih]
    · rfl
    · rintro rfl; exact absurd rfl hb
    · rintro x y rfl; exact absurd rfl hb
  | escaped he h ih =>
    obtain rfl := escape_iff.1 he
    simp [quoted?, ih]

/-! ## Numbers -/

theorem number_sound {c : Char} {rest : List Char} (hc : c.isDigit = true) :
    WritesToken (number c rest).1 (c :: rest.take (number c rest).2) := by
  have hmore : Digits (c :: rest.takeWhile Char.isDigit) := by
    refine ⟨by simp, fun x hx => ?_⟩
    rcases List.mem_cons.1 hx with rfl | hx
    · exact hc
    · exact mem_takeWhile hx
  have htake := take_takeWhile Char.isDigit rest
  have hdrop := drop_takeWhile Char.isDigit rest
  simp only [number]
  split
  · next tail htail =>
    split
    · simp only [htake]
      exact .whole hmore
    · next hfraction =>
      have hf : Digits (tail.takeWhile Char.isDigit) :=
        ⟨by simpa using hfraction, fun x hx => mem_takeWhile hx⟩
      have hlong : rest.take ((rest.takeWhile Char.isDigit).length + 1
          + (tail.takeWhile Char.isDigit).length)
          = rest.takeWhile Char.isDigit ++ '.' :: tail.takeWhile Char.isDigit := by
        rw [Nat.add_assoc, List.take_add, htake, hdrop, htail, Nat.add_comm 1,
          List.take_succ_cons, take_takeWhile]
      simp only [hlong]
      exact .fraction hmore hf
  · simp only [htake]
    exact .whole hmore

theorem digits_not_ends {rest : List Char} (hr : Ends rest) (c : Char) (r : List Char)
    (h : rest = c :: r) : c.isDigit = false := by
  cases hd : c.isDigit with
  | false => rfl
  | true => simpa [isIdentifierChar_of_isDigit hd] using (hr c r h).1

theorem number_whole {c : Char} {s rest : List Char} (hs : ∀ x ∈ s, x.isDigit = true)
    (hr : Ends rest) : number c (s ++ rest) = (.literal (.whole (c :: s)), s.length) := by
  have hd := digits_not_ends hr
  simp only [number, takeWhile_run hs hd, dropWhile_run hs hd]
  split
  · next tail => exact absurd rfl (hr '.' tail rfl).2
  · rfl

theorem number_fraction {c : Char} {s fraction rest : List Char}
    (hs : ∀ x ∈ s, x.isDigit = true) (hf : Digits fraction) (hr : Ends rest) :
    number c (s ++ '.' :: (fraction ++ rest))
      = (.literal (.fraction (c :: s) fraction), s.length + 1 + fraction.length) := by
  have hd := digits_not_ends hr
  have hpoint : ∀ x r, '.' :: (fraction ++ rest) = x :: r → x.isDigit = false := by
    intro x r h; cases h; decide
  simp only [number, takeWhile_run hs hpoint, dropWhile_run hs hpoint, takeWhile_run hf.2 hd]
  rw [if_neg]
  simpa using hf.1

/-! ## Marks -/

theorem mark?_sound {c : Char} {rest : List Char} {token : Token} {count : Nat}
    (h : mark? c rest = some (token, count)) :
    WritesToken token (c :: rest.take count) := by
  unfold mark? at h
  split at h
  any_goals contradiction
  all_goals
    obtain ⟨rfl, rfl⟩ := Prod.mk.inj (Option.some.inj h)
    rfl

/-- An operator is cut off, unless an equals sign after it makes it another one. -/
theorem mark?_op {op : BinaryOp} {c : Char} {w rest : List Char}
    (h : op.symbol.toList = c :: w) (hb : Bounded (.op op) rest) :
    mark? c (w ++ rest) = some (.op op, w.length) := by
  cases op
  case gt =>
    obtain ⟨rfl, rfl⟩ := List.cons.inj (show ['>'] = c :: w from h)
    cases rest with
    | nil => rfl
    | cons x rest =>
      have hx : x ≠ '=' := by simpa [Bounded] using hb
      simp [mark?, hx]
  case lt =>
    obtain ⟨rfl, rfl⟩ := List.cons.inj (show ['<'] = c :: w from h)
    cases rest with
    | nil => rfl
    | cons x rest =>
      have hx : x ≠ '=' := by simpa [Bounded] using hb
      simp [mark?, hx]
  all_goals
    obtain ⟨rfl, rfl⟩ := List.cons.inj h
    rfl

/-! ## The first token of a text -/

theorem keyword_start {c : Char} {s : List Char} {value : WrittenLiteral}
    (h : keyword? (c :: s) = some value) :
    Text.isIdentifierStart c = true ∧ ∀ x ∈ s, Text.isIdentifierChar x = true := by
  have hletters : ∀ x ∈ (c :: s).map Char.toLower, x.isLower = true := by
    rcases keyword?_sound h with ⟨-, hw | hw⟩ | ⟨b, -, hw⟩
    · rw [hw]
      exact List.all_eq_true.1 (by decide)
    · rw [hw]
      exact List.all_eq_true.1 (by decide)
    · cases b with
      | true =>
        rw [show (c :: s).map Char.toLower = "true".toList from hw]
        exact List.all_eq_true.1 (by decide)
      | false =>
        rw [show (c :: s).map Char.toLower = "false".toList from hw]
        exact List.all_eq_true.1 (by decide)
  have halpha : ∀ x ∈ c :: s, x.isAlpha = true := fun x hx =>
    isAlpha_of_toLower (hletters x.toLower (List.mem_map_of_mem hx))
  refine ⟨by simp [Text.isIdentifierStart, halpha c (by simp)], fun x hx => ?_⟩
  simp [Text.isIdentifierChar, Char.isAlphanum, halpha x (List.mem_cons_of_mem _ hx)]

theorem nameOrKeyword_sound {c : Char} {rest : List Char}
    (hc : Text.isIdentifierStart c = true) :
    WritesToken (nameOrKeyword c rest).1 (c :: rest.take (nameOrKeyword c rest).2) := by
  have htake := take_takeWhile Text.isIdentifierChar rest
  simp only [nameOrKeyword]
  split
  · next value hk =>
    simp only [htake]
    rcases keyword?_sound hk with ⟨rfl, hw⟩ | ⟨b, rfl, hw⟩
    · exact .null hw
    · exact .bool hw
  · next hk =>
    have hname := name_of_word hc hk
    obtain ⟨hmore, hnames⟩ :=
      moreSegments_sound (rest.drop (rest.takeWhile Text.isIdentifierChar).length)
    refine ⟨by simp, fun segment hm => ?_, ?_⟩
    · rcases List.mem_cons.1 hm with rfl | hm
      · exact hname
      · exact hnames segment hm
    · rw [List.take_add, htake, hmore, intercalate_eq_dotted, List.cons_append]

/-- What is cut off at the start of a text writes the token, unless nothing readable is
there. -/
theorem first_sound {c : Char} {rest : List Char} (h : (Token.first c rest).1 ≠ .unreadable) :
    WritesToken (Token.first c rest).1 (c :: rest.take (Token.first c rest).2) := by
  unfold Token.first at h ⊢
  by_cases hd : c.isDigit = true
  · rw [if_pos hd]
    exact number_sound hd
  · rw [if_neg hd] at h ⊢
    by_cases hi : Text.isIdentifierStart c = true
    · rw [if_pos hi]
      exact nameOrKeyword_sound hi
    · rw [if_neg hi] at h ⊢
      by_cases hq : c = '\'' ∨ c = '"'
      · rw [if_pos hq] at h ⊢
        cases hs : quoted? c rest with
        | none => rw [hs] at h; exact absurd rfl h
        | some read =>
          obtain ⟨value, count⟩ := read
          obtain ⟨body, ht, hquoted⟩ := quoted?_sound hs
          simp only [ht]
          exact .string hq hquoted
      · rw [if_neg hq] at h ⊢
        cases hm : mark? c rest with
        | none => rw [hm] at h; exact absurd rfl h
        | some read =>
          obtain ⟨token, count⟩ := read
          exact mark?_sound hm

theorem first_of_isDigit {c : Char} {rest : List Char} (h : c.isDigit = true) :
    Token.first c rest = number c rest := by
  rw [Token.first, if_pos h]

theorem first_of_start {c : Char} {rest : List Char} (h : Text.isIdentifierStart c = true) :
    Token.first c rest = nameOrKeyword c rest := by
  have hd : ¬ c.isDigit = true := fun hd => by
    rw [isIdentifierStart_of_isDigit hd] at h
    contradiction
  rw [Token.first, if_neg hd, if_pos h]

/-- A mark is no digit, no letter and no quote. -/
theorem first_of_mark {c : Char} {rest : List Char} {token : Token} {count : Nat}
    (h : mark? c rest = some (token, count))
    (hc : c ∈ "|&=!><+-*/(),".toList) : Token.first c rest = (token, count) := by
  have hclass : "|&=!><+-*/(),".toList.all (fun x =>
      !x.isDigit && !Text.isIdentifierStart x && x != '\'' && x != '"') = true := by
    decide
  have hclass := List.all_eq_true.1 hclass c hc
  simp only [Bool.and_eq_true, Bool.not_eq_true', bne_iff_ne, ne_eq] at hclass
  obtain ⟨⟨⟨hd, hi⟩, hs⟩, hq⟩ := hclass
  rw [Token.first, if_neg (by simp [hd]), if_neg (by simp [hi]), if_neg (by simp [hs, hq]), h]
  rfl

theorem first_literal {value : WrittenLiteral} {c : Char} {w rest : List Char}
    (h : WritesLiteral value (c :: w)) (hb : Bounded (.literal value) rest) :
    Token.first c (w ++ rest) = (.literal value, w.length) := by
  -- a keyword is read as a word, and then it is no name
  have hword : ∀ v, keyword? (c :: w) = some v → Ends rest →
      Token.first c (w ++ rest) = (.literal v, w.length) := by
    intro v hk hr
    obtain ⟨hc, hw⟩ := keyword_start hk
    have hrun : (w ++ rest).takeWhile Text.isIdentifierChar = w :=
      takeWhile_run hw fun x r hx => (hr x r hx).1
    rw [first_of_start hc]
    simp only [nameOrKeyword, hrun, hk]
  generalize hs : c :: w = s at h
  cases h with
  | null hn => exact hword _ (keyword?_null (hs ▸ hn)) hb
  | bool hn => exact hword _ (keyword?_bool (hs ▸ hn)) hb
  | whole hd =>
    subst hs
    rw [first_of_isDigit (hd.2 c (by simp))]
    exact number_whole (fun x hx => hd.2 x (List.mem_cons_of_mem _ hx)) hb
  | @fraction whole fraction hw hf =>
    cases whole with
    | nil => exact absurd rfl hw.1
    | cons x digits =>
      rw [List.cons_append] at hs
      obtain ⟨rfl, rfl⟩ := List.cons.inj hs
      rw [first_of_isDigit (hw.2 c (by simp)), List.append_assoc, List.cons_append,
        number_fraction (fun x hx => hw.2 x (List.mem_cons_of_mem _ hx)) hf hb,
        List.length_append, List.length_cons]
      congr 1
      omega
  | @string quote value body hq hquoted =>
    obtain ⟨rfl, rfl⟩ := List.cons.inj hs
    have hread := quoted?_complete rest hq hquoted
    have hclass : c.isDigit = false ∧ Text.isIdentifierStart c = false := by
      rcases hq with rfl | rfl <;> decide
    rw [List.append_assoc, List.singleton_append, Token.first, if_neg (by simp [hclass.1]),
      if_neg (by simp [hclass.2]), if_pos hq, hread]
    simp

theorem first_path {segments : List (List Char)} {c : Char} {w rest : List Char}
    (h : WritesToken (.path segments) (c :: w)) (hr : Ends rest) :
    Token.first c (w ++ rest) = (.path segments, w.length) := by
  obtain ⟨hne, hnames, heq⟩ := h
  cases segments with
  | nil => exact absurd rfl hne
  | cons name segments =>
    cases name with
    | nil => exact absurd rfl (name_ne_nil (hnames [] (by simp)))
    | cons x s =>
      rw [intercalate_eq_dotted, List.cons_append] at heq
      obtain ⟨rfl, rfl⟩ := List.cons.inj heq
      have hname := hnames (c :: s) (by simp)
      obtain ⟨hc, hs⟩ := name_cons hname
      have hmore := fun segment hm => hnames segment (List.mem_cons_of_mem _ hm)
      have hrun : (s ++ (dotted segments ++ rest)).takeWhile Text.isIdentifierChar = s := by
        refine takeWhile_run hs ?_
        intro y r hy
        cases segments with
        | nil => exact (hr y r hy).1
        | cons next segments =>
          simp only [dotted, List.flatMap_cons, List.cons_append, List.cons.injEq] at hy
          rw [← hy.1]
          decide
      rw [first_of_start hc, List.append_assoc]
      simp only [nameOrKeyword, hrun, keyword?_eq_none_iff.2 hname.2, List.drop_left,
        moreSegments_complete hmore hr, List.length_append, length_dotted]

/-- A written token is cut off again, if what follows cannot go on with it. -/
theorem first_complete {token : Token} {c : Char} {w rest : List Char}
    (h : WritesToken token (c :: w)) (hb : Bounded token rest) :
    Token.first c (w ++ rest) = (token, w.length) := by
  cases token with
  | literal value => exact first_literal h hb
  | path segments => exact first_path h hb
  | op op =>
    refine first_of_mark (mark?_op h.symm hb) ?_
    have hc : c ∈ op.symbol.toList := by rw [← (h : c :: w = _)]; simp
    have hmarks : op.symbol.toList.all ("|&=!><+-*/(),".toList.contains ·) = true := by
      cases op <;> decide
    exact List.contains_iff_mem.1 (List.all_eq_true.1 hmarks c hc)
  | opening | closing | comma =>
    obtain ⟨rfl, rfl⟩ := List.cons.inj h
    exact first_of_mark rfl (by decide)
  | unreadable => exact absurd h id

/-! ## A whole text -/

/-- The tokens of a text. -/
def tokens (s : List Char) : List Token :=
  (Lexeme.ofChars s).map Lexeme.token

/-- Blanks before a text do not change its tokens. -/
theorem tokens_gap_append {g : List Char} (hg : Gap g) (s : List Char) :
    tokens (g ++ s) = tokens s := by
  have hdrop : (g ++ s).dropWhile isGap = s.dropWhile isGap := by
    induction g with
    | nil => rfl
    | cons c g ih =>
      have hc : isGap c = true := isGap_iff.2 (hg c (by simp))
      rw [List.cons_append, List.dropWhile_cons_of_pos hc]
      exact ih fun x hx => hg x (List.mem_cons_of_mem _ hx)
  cases h : s.dropWhile isGap with
  | nil =>
    rw [tokens, tokens, Lexeme.ofChars_of_dropGap_nil h,
      Lexeme.ofChars_of_dropGap_nil (hdrop.trans h)]
  | cons c rest =>
    rw [tokens, tokens, Lexeme.ofChars_of_dropGap_cons h,
      Lexeme.ofChars_of_dropGap_cons (hdrop.trans h), List.map_cons, List.map_cons]

theorem tokens_nil : tokens [] = [] := by
  rw [tokens, Lexeme.ofChars_of_dropGap_nil rfl, List.map_nil]

/-- A text starts with something to read, and not with an equals sign. -/
def Opens (s : List Char) : Prop :=
  ∃ c r, s = c :: r ∧ Text.isBlank c = false ∧ c ≠ '='

theorem opens_append {s : List Char} (h : Opens s) (rest : List Char) : Opens (s ++ rest) := by
  obtain ⟨c, r, rfl, hb, hne⟩ := h
  exact ⟨c, r ++ rest, rfl, hb, hne⟩

theorem opens_of_isIdentifierChar {c : Char} (h : Text.isIdentifierChar c = true)
    (rest : List Char) : Opens (c :: rest) := by
  refine ⟨c, rest, rfl, isBlank_of_isIdentifierChar h, ?_⟩
  rintro rfl
  exact absurd h (by decide)

theorem opens_digits {s : List Char} (h : Digits s) : Opens s := by
  cases s with
  | nil => exact absurd rfl h.1
  | cons c s => exact opens_of_isIdentifierChar (isIdentifierChar_of_isDigit (h.2 c (by simp))) s

theorem opens_name {s : List Char} (h : Name s) : Opens s := by
  cases s with
  | nil => exact absurd rfl (name_ne_nil h)
  | cons c s => exact opens_of_isIdentifierChar (isIdentifierChar_of_start (name_cons h).1) s

theorem opens_literal {value : WrittenLiteral} {s : List Char} (h : WritesLiteral value s) :
    Opens s := by
  have hword : ∀ v, keyword? s = some v → Opens s := by
    intro v hk
    cases s with
    | nil => rw [show keyword? [] = none from by decide] at hk; contradiction
    | cons c s =>
      exact opens_of_isIdentifierChar (isIdentifierChar_of_start (keyword_start hk).1) s
  cases h with
  | null hw => exact hword _ (keyword?_null hw)
  | bool hw => exact hword _ (keyword?_bool hw)
  | whole hd => exact opens_digits hd
  | fraction hd hf => exact opens_append (opens_digits hd) _
  | string hq hquoted =>
    rcases hq with rfl | rfl
    · exact ⟨_, _, rfl, by decide, by decide⟩
    · exact ⟨_, _, rfl, by decide, by decide⟩

theorem opens_path {segments : List (List Char)} {s : List Char}
    (h : WritesToken (.path segments) s) : Opens s := by
  obtain ⟨hne, hnames, rfl⟩ := h
  cases segments with
  | nil => exact absurd rfl hne
  | cons name segments =>
    rw [intercalate_eq_dotted]
    exact opens_append (opens_name (hnames name (by simp))) _

/-- A written token is there, and starts with no blank. -/
theorem writesToken_start {token : Token} {w : List Char} (h : WritesToken token w) :
    ∃ c r, w = c :: r ∧ isGap c = false := by
  cases token with
  | literal value =>
    obtain ⟨c, r, hw, hb, -⟩ := opens_literal h
    exact ⟨c, r, hw, isGap_of_isBlank hb⟩
  | path segments =>
    obtain ⟨c, r, hw, hb, -⟩ := opens_path h
    exact ⟨c, r, hw, isGap_of_isBlank hb⟩
  | op op =>
    obtain rfl : w = op.symbol.toList := h
    cases op <;> exact ⟨_, _, rfl, by decide⟩
  | opening | closing | comma => exact ⟨_, _, h, by decide⟩
  | unreadable => exact absurd h id

/-- A written token is the first token of a text, if what follows cannot go on with it. -/
theorem tokens_append {w rest : List Char} {token : Token} (hw : WritesToken token w)
    (hb : Bounded token rest) : tokens (w ++ rest) = token :: tokens rest := by
  obtain ⟨c, r, rfl, hc⟩ := writesToken_start hw
  have hdrop : (c :: r ++ rest).dropWhile isGap = c :: (r ++ rest) := by
    rw [List.cons_append, List.dropWhile_cons_of_neg (by simp [hc])]
  rw [tokens, Lexeme.ofChars_of_dropGap_cons hdrop, first_complete hw hb, List.map_cons,
    List.drop_left]
  rfl

/-- Every lexeme of a text has blanks before it and the characters of its token, unless
nothing readable is there. -/
theorem lexeme_sound (s : List Char) : ∀ x ∈ Lexeme.ofChars s,
    Gap x.gap ∧ (x.token ≠ .unreadable → WritesToken x.token x.written) := by
  intro x hx
  match h : s.dropWhile isGap with
  | [] =>
    rw [Lexeme.ofChars_of_dropGap_nil h] at hx
    exact absurd hx (by simp)
  | c :: rest =>
    rw [Lexeme.ofChars_of_dropGap_cons h] at hx
    rcases List.mem_cons.1 hx with rfl | hx
    · exact ⟨fun y hy => isGap_iff.1 (mem_takeWhile hy), fun hr => first_sound hr⟩
    · exact lexeme_sound _ x hx
termination_by s.length
decreasing_by
  have hle := Lexeme.length_dropGap_le s
  rw [h] at hle
  simp only [List.length_drop, List.length_cons] at hle ⊢
  omega

end Formulary.Grammar
