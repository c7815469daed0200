/-!
# Requests with effects

A request makes effects on the outside world, one after the other, until it returns or fails.
`Act` keeps the effects it has made in either case.  `Ensures` is the triple for such requests:
every effect satisfies `P`, and so does a returned value with `Q`; `Ensures.bind` is its
composition rule.
-/

namespace Trustctl.Systems

/-- What a request returned, and the effects it made. -/
structure Act (ω ε α : Type) where
  result : Except ε α
  effects : List ω

namespace Act

variable {ω ε α β : Type}

instance : Monad (Act ω ε) where
  pure a := ⟨.ok a, []⟩
  bind x f :=
    match x.result with
    | .ok a => ⟨(f a).result, x.effects ++ (f a).effects⟩
    | .error err => ⟨.error err, x.effects⟩

/-- The request makes the effect. -/
def emit (e : ω) : Act ω ε Unit := ⟨.ok (), [e]⟩

/-- The request fails if the check does. -/
def check (outcome : Except ε α) : Act ω ε α := ⟨outcome, []⟩

def fail (err : ε) : Act ω ε α := check (.error err)

@[simp] theorem pure_result {a : α} : (pure a : Act ω ε α).result = .ok a := rfl

@[simp] theorem pure_effects {a : α} : (pure a : Act ω ε α).effects = [] := rfl

@[simp] theorem check_result {outcome : Except ε α} :
    (check outcome : Act ω ε α).result = outcome := rfl

@[simp] theorem check_effects {out : Except ε α} : (check out : Act ω ε α).effects = [] := rfl

@[simp] theorem fail_result {err : ε} : (fail err : Act ω ε α).result = .error err := rfl

@[simp] theorem fail_effects {err : ε} : (fail err : Act ω ε α).effects = [] := rfl

@[simp] theorem emit_result {e : ω} : (emit e : Act ω ε Unit).result = .ok () := rfl

@[simp] theorem emit_effects {e : ω} : (emit e : Act ω ε Unit).effects = [e] := rfl

section Bind

variable {x : Act ω ε α} {f : α → Act ω ε β}

theorem bind_of_ok {a : α} (back : x.result = .ok a) :
    x >>= f = ⟨(f a).result, x.effects ++ (f a).effects⟩ := by
  show (match x.result with | .ok a => _ | .error err => _) = _
  rw [back]

theorem bind_of_error {err : ε} (failed : x.result = .error err) :
    x >>= f = ⟨.error err, x.effects⟩ := by
  show (match x.result with | .ok a => _ | .error err => _) = _
  rw [failed]

@[simp] theorem bind_result_ok {b : β} :
    (x >>= f).result = .ok b ↔ ∃ a, x.result = .ok a ∧ (f a).result = .ok b := by
  cases returned : x.result with
  | ok a => simp [bind_of_ok returned]
  | error err => simp [bind_of_error returned]

@[simp] theorem mem_bind_effects {e : ω} :
    e ∈ (x >>= f).effects ↔ e ∈ x.effects ∨ ∃ a, x.result = .ok a ∧ e ∈ (f a).effects := by
  cases returned : x.result with
  | ok a => simp [bind_of_ok returned]
  | error err => simp [bind_of_error returned]

end Bind

/-- Every effect satisfies `P`, and a value is returned only if it satisfies `Q`. -/
structure Ensures (P : ω → Prop) (Q : α → Prop) (x : Act ω ε α) : Prop where
  effects : ∀ e ∈ x.effects, P e
  result : ∀ a, x.result = .ok a → Q a

namespace Ensures

variable {P : ω → Prop} {Q : α → Prop} {R : β → Prop}

theorem pure {a : α} (holds : Q a) : Ensures P Q (pure a : Act ω ε α) :=
  ⟨nofun, fun _ back => Except.ok.inj back ▸ holds⟩

theorem check {out : Except ε α} (holds : ∀ a, out = .ok a → Q a) :
    Ensures P Q (Act.check out : Act ω ε α) :=
  ⟨nofun, holds⟩

theorem fail {err : ε} : Ensures P Q (Act.fail err : Act ω ε α) := check fun _ => nofun

theorem emit {e : ω} {Q : Unit → Prop} (may : P e) (holds : Q ()) :
    Ensures P Q (Act.emit e : Act ω ε Unit) :=
  ⟨fun _ made => List.mem_singleton.mp made ▸ may, fun _ _ => holds⟩

theorem bind {x : Act ω ε α} {f : α → Act ω ε β} (first : Ensures P Q x)
    (next : ∀ a, Q a → Ensures P R (f a)) : Ensures P R (x >>= f) := by
  constructor
  · intro e made
    rcases mem_bind_effects.mp made with early | ⟨a, back, late⟩
    · exact first.effects e early
    · exact (next a (first.result a back)).effects e late
  · intro b back
    obtain ⟨a, early, late⟩ := bind_result_ok.mp back
    exact (next a (first.result a early)).result b late

theorem bindCheck {out : Except ε α} {f : α → Act ω ε β}
    (next : ∀ a, out = .ok a → Ensures P R (f a)) : Ensures P R (Act.check out >>= f) :=
  (check (Q := fun a => out = .ok a) fun _ pass => pass).bind next

theorem bindEmit {e : ω} {f : Unit → Act ω ε β} (may : P e) (next : Ensures P R (f ())) :
    Ensures P R (Act.emit e >>= f) :=
  (emit (Q := fun _ => True) may trivial).bind fun _ _ => next

theorem weaken {x : Act ω ε α} {Q' : α → Prop} (holds : Ensures P Q x) (weaker : ∀ a, Q a → Q' a) :
    Ensures P Q' x := ⟨holds.effects, fun a back => weaker a (holds.result a back)⟩

end Ensures

end Act

end Trustctl.Systems
