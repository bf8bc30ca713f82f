import Formulary.Proofs.Function.Results
import Formulary.Proofs.Function.Round

/-!
# Functions and their entries in the table

The table says of every function how many arguments it takes, of which kinds they are, and of
which kind its results are.  The functions check their arguments themselves.  Both say the same:
first the number of arguments counts, then nulls, then the first argument of a wrong kind.

* `Refused`, `FirstRefused` — an argument that its parameter does not accept, and the first one;
* `Signature.Keeps` — what a signature says of a function;
* `keeps_ofText`, `keeps_like`, `keeps_dateAdd`, … — that it is so, for each way to check;
* `table_agrees` — that it is so for every function of the table.
-/

namespace Formulary

/-! ## Arguments that are refused -/

/-- The parameter at a place, counted from zero, does not accept its argument. -/
structure Refused (params : List ParamKind) (args : List Value) (place : Nat) (kind : ParamKind)
    (arg : Value) : Prop where
  param : params[place]? = some kind
  argument : args[place]? = some arg
  refused : kind.accepts arg = false

/-- It is the first parameter that does not accept its argument. -/
structure FirstRefused (params : List ParamKind) (args : List Value) (place : Nat)
    (kind : ParamKind) (arg : Value) : Prop extends Refused params args place kind arg where
  first : ∀ earlier < place, ∀ kind arg, ¬ Refused params args earlier kind arg

section Refused

variable {param kind : ParamKind} {params : List ParamKind} {arg value : Value} {args : List Value}
  {place : Nat}

theorem refused_cons_zero :
    Refused (param :: params) (arg :: args) 0 kind value ↔
      kind = param ∧ value = arg ∧ param.accepts arg = false := by
  constructor
  · intro h
    obtain rfl := Option.some.inj h.param
    obtain rfl := Option.some.inj h.argument
    exact ⟨rfl, rfl, h.refused⟩
  · rintro ⟨rfl, rfl, h⟩
    exact ⟨rfl, rfl, h⟩

theorem refused_cons_succ :
    Refused (param :: params) (arg :: args) (place + 1) kind value ↔
      Refused params args place kind value := by
  constructor
  · intro h
    exact ⟨h.param, h.argument, h.refused⟩
  · intro h
    exact ⟨h.param, h.argument, h.refused⟩

/-- If some argument is refused, one is the first. -/
theorem Refused.exists_first (h : Refused params args place kind arg) :
    ∃ place kind arg, FirstRefused params args place kind arg := by
  induction place using Nat.strong_induction_on generalizing kind arg with
  | _ place ih =>
    by_cases hearlier : ∃ earlier < place, ∃ kind arg, Refused params args earlier kind arg
    · obtain ⟨earlier, hlt, _, _, hrefused⟩ := hearlier
      exact ih earlier hlt hrefused
    · refine ⟨place, kind, arg, h, ?_⟩
      intro earlier hlt kind arg hrefused
      exact hearlier ⟨earlier, hlt, kind, arg, hrefused⟩

theorem firstRefused_cons_zero :
    FirstRefused (param :: params) (arg :: args) 0 kind value ↔
      kind = param ∧ value = arg ∧ param.accepts arg = false := by
  have hzero : Refused (param :: params) (arg :: args) 0 kind value ↔
      kind = param ∧ value = arg ∧ param.accepts arg = false := refused_cons_zero
  rw [← hzero]
  constructor
  · intro h
    exact h.toRefused
  · intro h
    refine ⟨h, ?_⟩
    intro earlier hlt
    exact absurd hlt (Nat.not_lt_zero earlier)

theorem firstRefused_cons_succ :
    FirstRefused (param :: params) (arg :: args) (place + 1) kind value ↔
      param.accepts arg = true ∧ FirstRefused params args place kind value := by
  constructor
  · intro h
    have haccepts : param.accepts arg = true := by
      by_contra hrefused
      refine h.first 0 (Nat.succ_pos place) param arg ?_
      exact refused_cons_zero.2 ⟨rfl, rfl, by simpa using hrefused⟩
    refine ⟨haccepts, refused_cons_succ.1 h.toRefused, ?_⟩
    intro earlier hlt kind value hrefused
    exact h.first (earlier + 1) (Nat.succ_lt_succ hlt) kind value (refused_cons_succ.2 hrefused)
  · rintro ⟨haccepts, h⟩
    refine ⟨refused_cons_succ.2 h.toRefused, ?_⟩
    intro earlier hlt kind value hrefused
    cases earlier with
    | zero =>
      obtain ⟨-, -, hnot⟩ := refused_cons_zero.1 hrefused
      rw [haccepts] at hnot
      cases hnot
    | succ earlier =>
      exact h.first earlier (Nat.lt_of_succ_lt_succ hlt) kind value
        (refused_cons_succ.1 hrefused)

end Refused

/-! ## Signatures -/

/-- An error that tells of a wrong number of arguments, or of an argument of a wrong kind. -/
def FunctionError.IsMisuse : FunctionError → Prop
  | .arity _ _ _ => True
  | .argumentType _ _ _ _ => True
  | _ => False

/-- What the table says of a function, and what becomes of nulls. -/
structure Signature where
  name : String
  params : List ParamKind
  returns : ParamKind
  /-- The result if some argument is null. -/
  ofNull : Value

/-- A number of arguments that fits, and none is null. -/
structure Signature.Fits (signature : Signature) (args : List Value) : Prop where
  length : args.length = signature.params.length
  not_null : .null ∉ args

/-- A function does what its signature says. -/
structure Signature.Keeps (signature : Signature) (function : Native) : Prop where
  arity : ∀ args, args.length ≠ signature.params.length →
    function args = .error (.arity signature.name signature.params.length args.length)
  null : ∀ args, args.length = signature.params.length → .null ∈ args →
    function args = .ok signature.ofNull
  refused : ∀ args, signature.Fits args → ∀ place kind arg,
    FirstRefused signature.params args place kind arg →
      function args = .error (.argumentType signature.name (place + 1) kind arg.kind)
  accepted : ∀ args, signature.Fits args →
    (∀ place kind arg, ¬ Refused signature.params args place kind arg) →
      ∀ e, function args = .error e → ¬ e.IsMisuse
  returned : ∀ args, signature.Fits args → ∀ v, function args = .ok v →
    signature.returns.accepts v = true ∧ v ≠ .null

namespace Signature.Keeps

variable {signature : Signature} {function : Native} {args : List Value} {e : FunctionError}

/-- Arguments that fit are misused only by the first one that is refused. -/
theorem firstRefused_of_isMisuse (hkeeps : signature.Keeps function) (hfits : signature.Fits args)
    (he : function args = .error e) (hmisuse : e.IsMisuse) :
    ∃ place kind arg, FirstRefused signature.params args place kind arg ∧
      e = .argumentType signature.name (place + 1) kind arg.kind := by
  by_cases hsome : ∃ place kind arg, Refused signature.params args place kind arg
  · obtain ⟨_, _, _, hrefused⟩ := hsome
    obtain ⟨place, kind, arg, hfirst⟩ := hrefused.exists_first
    rw [hkeeps.refused args hfits place kind arg hfirst] at he
    exact ⟨place, kind, arg, hfirst, (Except.error.inj he).symm⟩
  · have hnone : ∀ place kind arg, ¬ Refused signature.params args place kind arg := by
      intro place kind arg hrefused
      exact hsome ⟨place, kind, arg, hrefused⟩
    exact absurd hmisuse (hkeeps.accepted args hfits hnone e he)

/-- A function that tells of an argument of a wrong kind was called with arguments that fit, and
it is the first one that is refused. -/
theorem of_argumentType {name : String} {position : Nat} {kind : ParamKind} {actual : String}
    (hkeeps : signature.Keeps function)
    (he : function args = .error (.argumentType name position kind actual)) :
    name = signature.name ∧ signature.Fits args ∧ ∃ place arg,
      FirstRefused signature.params args place kind arg ∧ position = place + 1 ∧
        actual = arg.kind := by
  have hlength : args.length = signature.params.length := by
    by_contra hne
    rw [hkeeps.arity args hne] at he
    cases he
  have hnull : .null ∉ args := by
    intro hnull
    rw [hkeeps.null args hlength hnull] at he
    cases he
  have hfits : signature.Fits args := ⟨hlength, hnull⟩
  obtain ⟨place, _, arg, hfirst, heq⟩ := hkeeps.firstRefused_of_isMisuse hfits he trivial
  cases heq
  exact ⟨rfl, hfits, place, arg, hfirst, rfl, rfl⟩

/-- A function that tells of a wrong number of arguments was called with one. -/
theorem of_arity {name : String} {expected actual : Nat} (hkeeps : signature.Keeps function)
    (he : function args = .error (.arity name expected actual)) :
    args.length ≠ signature.params.length := by
  intro hlength
  by_cases hnull : .null ∈ args
  · rw [hkeeps.null args hlength hnull] at he
    cases he
  · obtain ⟨_, _, _, -, heq⟩ := hkeeps.firstRefused_of_isMisuse ⟨hlength, hnull⟩ he trivial
    cases heq

end Signature.Keeps

namespace Builtin

/-! ## Functions without arguments -/

theorem keeps_constant (name text : String) :
    Signature.Keeps ⟨name, [], .text, .null⟩ (constant name text) where
  arity args h := by
    cases args with
    | nil => exact absurd rfl h
    | cons arg args => rfl
  null args h hnull := by
    rw [List.length_eq_zero_iff.1 h] at hnull
    cases hnull
  refused args h place kind arg hrefused := by cases hrefused.param
  accepted args h _ e he := by
    rw [List.length_eq_zero_iff.1 h.length] at he
    cases he
  returned args h v hv := by
    obtain rfl := constant_eq_ok hv
    exact ⟨rfl, by simp⟩

/-! ## Functions of one text -/

/-- A function of one text whose results are of a kind. -/
theorem keeps_ofText (name : String) {result : String → Value} {returns : ParamKind}
    (hresult : ∀ s, returns.accepts (result s) = true ∧ result s ≠ .null) :
    Signature.Keeps ⟨name, [.text], returns, .null⟩ (ofText name result) where
  arity args h := by
    unfold ofText
    split
    · exact absurd rfl h
    · exact absurd rfl h
    · exact absurd rfl h
    · rfl
  null args h hnull := by
    obtain ⟨arg, rfl⟩ := List.length_eq_one_iff.1 h
    obtain rfl := List.mem_singleton.1 hnull
    rfl
  refused args h place kind arg hrefused := by
    obtain ⟨value, rfl⟩ := List.length_eq_one_iff.1 h.length
    cases place with
    | zero =>
      obtain ⟨rfl, rfl, hnot⟩ := firstRefused_cons_zero.1 hrefused
      cases arg with
      | null => cases hnot
      | string s => cases hnot
      | _ => rfl
    | succ place =>
      obtain ⟨-, hlater⟩ := firstRefused_cons_succ.1 hrefused
      cases hlater.param
  accepted args h hnone e he := by
    obtain ⟨value, rfl⟩ := List.length_eq_one_iff.1 h.length
    have haccepts : ParamKind.text.accepts value = true := by
      by_contra hnot
      exact hnone 0 .text value (refused_cons_zero.2 ⟨rfl, rfl, by simpa using hnot⟩)
    cases value with
    | null => cases he
    | string s => cases he
    | _ => cases haccepts
  returned args h v hv := by
    rcases ofText_eq_ok hv with ⟨rfl, -⟩ | ⟨s, -, rfl⟩
    · exact absurd (List.mem_singleton_self _) h.not_null
    · exact hresult s

/-! ## Functions of two arguments -/

section Kinds

variable {value : Value}

theorem accepts_text (hvalue : value ≠ .null) (h : ParamKind.text.accepts value = true) :
    ∃ s, value = .string s := by
  cases value with
  | null => exact absurd rfl hvalue
  | string s => exact ⟨s, rfl⟩
  | _ => cases h

theorem accepts_number (hvalue : value ≠ .null) :
    ParamKind.number.accepts value = value.float?.isSome := by
  cases value with
  | null => exact absurd rfl hvalue
  | _ => rfl

theorem float?_of_accepts (hvalue : value ≠ .null) (h : ParamKind.number.accepts value = true) :
    ∃ x, value.float? = some x := by
  rw [accepts_number hvalue] at h
  exact Option.isSome_iff_exists.1 h

theorem float?_of_refuses (hvalue : value ≠ .null) (h : ParamKind.number.accepts value = false) :
    value.float? = none := by
  rw [accepts_number hvalue] at h
  simpa using h

theorem accepts_integer (hvalue : value ≠ .null) :
    ParamKind.integer.accepts value = value.int?.isSome := by
  cases value with
  | null => exact absurd rfl hvalue
  | _ => rfl

theorem int?_of_accepts (hvalue : value ≠ .null) (h : ParamKind.integer.accepts value = true) :
    ∃ n, value.int? = some n := by
  rw [accepts_integer hvalue] at h
  exact Option.isSome_iff_exists.1 h

theorem int?_of_refuses (hvalue : value ≠ .null) (h : ParamKind.integer.accepts value = false) :
    value.int? = none := by
  rw [accepts_integer hvalue] at h
  simpa using h

end Kinds

/-- A function of two arguments does what its signature says, if it does so for two arguments that
are not null, looks for nulls first, and refuses any other number of arguments. -/
theorem keeps_pair {name : String} {left right returns : ParamKind} {ofNull : Value}
    {function : Native}
    (harity : ∀ args, args.length ≠ 2 → function args = .error (.arity name 2 args.length))
    (hnull : ∀ other, function [.null, other] = .ok ofNull ∧ function [other, .null] = .ok ofNull)
    (hleft : ∀ a b, a ≠ .null → b ≠ .null → left.accepts a = false →
      function [a, b] = .error (.argumentType name 1 left a.kind))
    (hright : ∀ a b, a ≠ .null → b ≠ .null → left.accepts a = true → right.accepts b = false →
      function [a, b] = .error (.argumentType name 2 right b.kind))
    (haccepted : ∀ a b, a ≠ .null → b ≠ .null → left.accepts a = true → right.accepts b = true →
      ∀ e, function [a, b] = .error e → ¬ e.IsMisuse)
    (hreturned : ∀ a b, a ≠ .null → b ≠ .null → ∀ v, function [a, b] = .ok v →
      returns.accepts v = true ∧ v ≠ .null) :
    Signature.Keeps ⟨name, [left, right], returns, ofNull⟩ function := by
  have hpair : ∀ args : List Value, Signature.Fits ⟨name, [left, right], returns, ofNull⟩ args →
      ∃ a b, args = [a, b] ∧ a ≠ .null ∧ b ≠ .null := by
    intro args h
    obtain ⟨a, b, rfl⟩ := List.length_eq_two.1 h.length
    refine ⟨a, b, rfl, ?_, ?_⟩
    · rintro rfl
      exact h.not_null (by simp)
    · rintro rfl
      exact h.not_null (by simp)
  refine ⟨harity, ?_, ?_, ?_, ?_⟩
  · intro args h hmem
    obtain ⟨a, b, rfl⟩ := List.length_eq_two.1 h
    rcases List.mem_cons.1 hmem with rfl | hlater
    · exact (hnull b).1
    · obtain rfl := List.mem_singleton.1 hlater
      exact (hnull a).2
  · intro args h place kind arg hrefused
    obtain ⟨a, b, rfl, ha, hb⟩ := hpair args h
    match place with
    | 0 =>
      obtain ⟨rfl, rfl, hnot⟩ := firstRefused_cons_zero.1 hrefused
      exact hleft _ _ ha hb hnot
    | 1 =>
      obtain ⟨haccepts, hlater⟩ := firstRefused_cons_succ.1 hrefused
      obtain ⟨rfl, rfl, hnot⟩ := firstRefused_cons_zero.1 hlater
      exact hright _ _ ha hb haccepts hnot
    | place + 2 =>
      obtain ⟨-, hlater⟩ := firstRefused_cons_succ.1 hrefused
      obtain ⟨-, hlast⟩ := firstRefused_cons_succ.1 hlater
      cases hlast.param
  · intro args h hnone e he
    obtain ⟨a, b, rfl, ha, hb⟩ := hpair args h
    refine haccepted a b ha hb ?_ ?_ e he
    · by_contra hnot
      exact hnone 0 left a ⟨rfl, rfl, by simpa using hnot⟩
    · by_contra hnot
      exact hnone 1 right b ⟨rfl, rfl, by simpa using hnot⟩
  · intro args h v hv
    obtain ⟨a, b, rfl, ha, hb⟩ := hpair args h
    exact hreturned a b ha hb v hv

theorem keeps_like (name : String) (pattern : LikePattern) :
    Signature.Keeps ⟨name, [.text, .text], .bool, .bool false⟩ (like name pattern) := by
  refine keeps_pair ?_ ?_ ?_ ?_ ?_ ?_
  · intro args h
    unfold like
    split
    case h_6 => rfl
    all_goals exact absurd rfl h
  · intro other
    refine ⟨rfl, ?_⟩
    cases other <;> rfl
  · intro a b ha hb hnot
    cases a with
    | null => cases hnot
    | string s => cases hnot
    | _ =>
      cases b with
      | null => exact absurd rfl hb
      | _ => rfl
  · intro a b ha hb haccepts hnot
    obtain ⟨s, rfl⟩ := accepts_text ha haccepts
    cases b with
    | null => cases hnot
    | string t => cases hnot
    | _ => rfl
  · intro a b ha hb haccepts haccepts' e he
    obtain ⟨s, rfl⟩ := accepts_text ha haccepts
    obtain ⟨t, rfl⟩ := accepts_text hb haccepts'
    cases he
  · intro a b ha hb v hv
    obtain ⟨found, rfl⟩ := like_eq_ok hv
    exact ⟨rfl, by simp⟩

/-- What the rounding does with arguments that are not null. -/
theorem round_of_ne_null {a b : Value} (ha : a ≠ .null) (hb : b ≠ .null) :
    round [a, b] = match a.float?, b.int? with
      | none, _ => .error (typeError "ROUND" 1 .number a)
      | some _, none => .error (typeError "ROUND" 2 .integer b)
      | some x, some places => .ok (.float (roundHalfUp x (clampPlaces places.toInt))) := by
  cases a with
  | null => exact absurd rfl ha
  | _ =>
    cases b with
    | null => exact absurd rfl hb
    | _ => rfl

theorem keeps_round :
    Signature.Keeps ⟨"ROUND", [.number, .integer], .number, .null⟩ round := by
  refine keeps_pair ?_ ?_ ?_ ?_ ?_ ?_
  · intro args h
    unfold round
    split
    case h_4 => rfl
    all_goals exact absurd rfl h
  · intro other
    refine ⟨rfl, ?_⟩
    cases other <;> rfl
  · intro a b ha hb hnot
    rw [round_of_ne_null ha hb, float?_of_refuses ha hnot]
    rfl
  · intro a b ha hb haccepts hnot
    obtain ⟨x, hx⟩ := float?_of_accepts ha haccepts
    rw [round_of_ne_null ha hb, hx, int?_of_refuses hb hnot]
    rfl
  · intro a b ha hb haccepts haccepts' e he
    obtain ⟨x, hx⟩ := float?_of_accepts ha haccepts
    obtain ⟨places, hplaces⟩ := int?_of_accepts hb haccepts'
    rw [round_of_numbers hx hplaces] at he
    cases he
  · intro a b ha hb v hv
    rw [round_of_ne_null ha hb] at hv
    split at hv
    · cases hv
    · cases hv
    · obtain rfl := Except.ok.inj hv
      exact ⟨rfl, by simp⟩

/-- What the function that adds days does with a text and a number that is not null. -/
theorem dateAdd_of_text (text : String) {days : Value} (hdays : days ≠ .null) :
    dateAdd [.string text, days] = match days.int? with
      | none => .error (typeError "DATE_ADD" 2 .integer days)
      | some count =>
        match Date.read? text with
        | none => .error (.invalidArgument "DATE_ADD" s!"date format invalid: {text}")
        | some date =>
          match date.addDays? count.toInt with
          | some shifted => .ok (.string shifted.text)
          | none =>
            .error (.invalidArgument "DATE_ADD"
              (s!"date out of range: {text} + " ++ Integer.text count ++ " days")) := by
  cases days with
  | null => exact absurd rfl hdays
  | _ => rfl

theorem dateAdd_of_not_text {a b : Value} (hb : b ≠ .null)
    (hnot : ParamKind.text.accepts a = false) :
    dateAdd [a, b] = .error (typeError "DATE_ADD" 1 .text a) := by
  cases a with
  | null => cases hnot
  | string s => cases hnot
  | _ =>
    cases b with
    | null => exact absurd rfl hb
    | _ => rfl

theorem keeps_dateAdd :
    Signature.Keeps ⟨"DATE_ADD", [.text, .integer], .text, .null⟩ dateAdd := by
  refine keeps_pair ?_ ?_ ?_ ?_ ?_ ?_
  · intro args h
    unfold dateAdd
    split
    case h_5 => rfl
    all_goals exact absurd rfl h
  · intro other
    refine ⟨rfl, ?_⟩
    cases other <;> rfl
  · intro a b ha hb hnot
    exact dateAdd_of_not_text hb hnot
  · intro a b ha hb haccepts hnot
    obtain ⟨text, rfl⟩ := accepts_text ha haccepts
    rw [dateAdd_of_text text hb, int?_of_refuses hb hnot]
    rfl
  · intro a b ha hb haccepts haccepts' e he
    obtain ⟨text, rfl⟩ := accepts_text ha haccepts
    obtain ⟨count, hcount⟩ := int?_of_accepts hb haccepts'
    rw [dateAdd_of_text text hb, hcount] at he
    simp only at he
    -- a text that is no date, or a date that is not in the calendar
    split at he
    · obtain rfl := Except.error.inj he
      exact not_false
    · split at he
      · cases he
      · obtain rfl := Except.error.inj he
        exact not_false
  · intro a b ha hb v hv
    by_cases haccepts : ParamKind.text.accepts a = true
    · obtain ⟨text, rfl⟩ := accepts_text ha haccepts
      rcases dateAdd_eq_ok hv with rfl | ⟨date, rfl⟩
      · rw [dateAdd_of_text text hb] at hv
        split at hv
        · cases hv
        · split at hv
          · cases hv
          · split at hv <;> cases hv
      · exact ⟨rfl, by simp⟩
    · rw [dateAdd_of_not_text hb (by simpa using haccepts)] at hv
      cases hv

/-! ## The table -/

/-- The functions that look for a text in another: a null is nowhere, and nowhere in a null. -/
def searchNames : List String := ["CONTAINS", "STARTS_WITH", "ENDS_WITH"]

/-- What the table says of a function. -/
def signature (builtin : Builtin) : Signature where
  name := builtin.name
  params := builtin.params
  returns := builtin.returns
  ofNull := if builtin.name ∈ searchNames then .bool false else .null

/-- Every function of the table does what its signature says. -/
theorem keeps_signature (surroundings : Surroundings) {builtin : Builtin} (hmem : builtin ∈ all)
    {function : Surroundings → Native} (haction : builtin.action = .eager function) :
    builtin.signature.Keeps (function surroundings) := by
  have htext : ∀ s, ParamKind.text.accepts (.string s) = true ∧ Value.string s ≠ .null :=
    fun s => ⟨rfl, by simp⟩
  -- one case for every function of the table, in its order
  simp only [all, List.mem_cons, List.not_mem_nil, or_false] at hmem
  rcases hmem with rfl | rfl | rfl | rfl | rfl | rfl | rfl | rfl | rfl | rfl | rfl | rfl
  · cases haction
    exact keeps_constant "TODAY" surroundings.today
  · cases haction
    exact keeps_constant "NOW" surroundings.now
  · cases haction
    exact keeps_dateAdd
  · cases haction
    exact keeps_ofText "LEN" fun s => ⟨rfl, by simp [length]⟩
  · cases haction
    exact keeps_ofText "UPPER" fun s => htext (Text.upper s)
  · cases haction
    exact keeps_ofText "LOWER" fun s => htext (Text.lower s)
  · cases haction
    exact keeps_like "CONTAINS" .contains
  · cases haction
    exact keeps_like "STARTS_WITH" .startsWith
  · cases haction
    exact keeps_like "ENDS_WITH" .endsWith
  · cases haction
    exact keeps_round
  · cases haction
  · cases haction
    exact keeps_ofText "BCRYPT" fun s => htext (surroundings.hashPassword s)

/-- The same of a function as calls find it. -/
theorem keeps_of_native {surroundings : Surroundings} {builtin : Builtin} (hmem : builtin ∈ all)
    {function : Native} (h : (builtin.toEntry surroundings).implementation = .native function) :
    builtin.signature.Keeps function := by
  cases haction : builtin.action with
  | eager native =>
    simp only [toEntry, haction] at h
    obtain rfl := Implementation.native.inj h
    exact keeps_signature surroundings hmem haction
  | conditional =>
    simp only [toEntry, haction] at h
    cases h

/-- **The functions check what the table says.**  A number of arguments that does not fit is
refused, and nothing else is refused for its number.  If the number fits, a null decides, whatever
the other arguments are.  Without nulls, the first argument that its parameter does not accept is
named, with the kinds that were asked for and found, and nothing is refused for its kind unless
there is such an argument.  And a result from arguments without nulls is of the declared kind, and
not null. -/
theorem table_agrees (surroundings : Surroundings) {builtin : Builtin} (hmem : builtin ∈ all)
    {function : Surroundings → Native} (haction : builtin.action = .eager function)
    (args : List Value) :
    (∀ name expected actual, function surroundings args = .error (.arity name expected actual) ↔
      args.length ≠ builtin.params.length ∧ name = builtin.name ∧
        expected = builtin.params.length ∧ actual = args.length) ∧
    (args.length = builtin.params.length → .null ∈ args →
      function surroundings args =
        .ok (if builtin.name ∈ searchNames then .bool false else .null)) ∧
    (args.length = builtin.params.length → .null ∉ args →
      ((∃ name position kind actual,
          function surroundings args = .error (.argumentType name position kind actual)) ↔
        ∃ place kind arg, Refused builtin.params args place kind arg) ∧
      (∀ name position kind actual,
        function surroundings args = .error (.argumentType name position kind actual) ↔
          name = builtin.name ∧ ∃ place arg, FirstRefused builtin.params args place kind arg ∧
            position = place + 1 ∧ actual = arg.kind) ∧
      ∀ v, function surroundings args = .ok v → builtin.returns.accepts v = true ∧ v ≠ .null) := by
  have hkeeps := keeps_signature surroundings hmem haction
  refine ⟨?_, hkeeps.null args, ?_⟩
  · intro name expected actual
    constructor
    · intro he
      have hlength := hkeeps.of_arity he
      rw [hkeeps.arity args hlength] at he
      cases he
      exact ⟨hlength, rfl, rfl, rfl⟩
    · rintro ⟨hlength, rfl, rfl, rfl⟩
      exact hkeeps.arity args hlength
  · intro hlength hnull
    have hfits : builtin.signature.Fits args := ⟨hlength, hnull⟩
    have hnamed : ∀ name position kind actual,
        function surroundings args = .error (.argumentType name position kind actual) ↔
          name = builtin.name ∧ ∃ place arg, FirstRefused builtin.params args place kind arg ∧
            position = place + 1 ∧ actual = arg.kind := by
      intro name position kind actual
      constructor
      · intro he
        obtain ⟨hname, -, hfirst⟩ := hkeeps.of_argumentType he
        exact ⟨hname, hfirst⟩
      · rintro ⟨rfl, place, arg, hfirst, rfl, rfl⟩
        exact hkeeps.refused args hfits place kind arg hfirst
    refine ⟨?_, hnamed, hkeeps.returned args hfits⟩
    constructor
    · rintro ⟨name, position, kind, actual, he⟩
      obtain ⟨-, place, arg, hfirst, -, -⟩ := (hnamed name position kind actual).1 he
      exact ⟨place, kind, arg, hfirst.toRefused⟩
    · rintro ⟨_, _, _, hrefused⟩
      obtain ⟨place, kind, arg, hfirst⟩ := hrefused.exists_first
      exact ⟨_, _, _, _, hkeeps.refused args hfits place kind arg hfirst⟩

/-- Two arguments of wrong kinds, the first of which is named; an argument of a wrong kind beside
a null; and no arguments. -/
theorem table_agrees_round :
    round [.string "x", .bool true] = .error (.argumentType "ROUND" 1 .number "string") ∧
      round [.string "x", .null] = .ok .null ∧ round [] = .error (.arity "ROUND" 2 0) := by
  let builtin : Builtin := all[9]
  have hmem : builtin ∈ all := List.getElem_mem _
  have haction : builtin.action = .eager fun _ => round := rfl
  have hrefused : FirstRefused builtin.params [.string "x", .bool true] 0 .number (.string "x") :=
    firstRefused_cons_zero.2 ⟨rfl, rfl, rfl⟩
  obtain ⟨-, -, hkinds⟩ := table_agrees ⟨"", "", id⟩ hmem haction [.string "x", .bool true]
  obtain ⟨-, hnull, -⟩ := table_agrees ⟨"", "", id⟩ hmem haction [.string "x", .null]
  obtain ⟨harity, -, -⟩ := table_agrees ⟨"", "", id⟩ hmem haction []
  obtain ⟨-, hnamed, -⟩ := hkinds rfl (by simp)
  refine ⟨?_, hnull rfl (by simp), ?_⟩
  · exact (hnamed "ROUND" 1 .number "string").2 ⟨rfl, 0, .string "x", hrefused, rfl, rfl⟩
  · exact (harity "ROUND" 2 0).2 ⟨by decide, rfl, rfl, rfl⟩

end Builtin

end Formulary
