import LoadGen.Engine.Shipped
import LoadGen.Proofs.Trace
import LoadGen.Validate

namespace LoadGen

/-!
# Sessions of HTTP engines

An engine answers one call after another.  What it answers depends on how its requests end, and on the
calls before: whether the last of them that opened or closed it has opened it.

* `RequestEnd.IsFine`, `HttpEngine.FirstFailure` — requests that are well, and the first that is not;
* `HttpEngine.Reply` — everything a call can do; `reply_of_call` says that there is nothing else;
* `HttpEngine.Exchange`, `HttpEngine.history` — what was said in a session;
* `HttpEngine.Reached.ready_iff`, `HttpEngine.Reached.issued_eq` — what the session has come to;
* `HttpEngine.calls_http` — the same in a network, where a request can be too large to be put together;
* `HttpEngine.sessions_keep_the_protocol` — how an engine answers, and which engines always do.
-/

/-- Whether a request ended with an answer that is no failure of the server. -/
def RequestEnd.IsFine (ending : RequestEnd) : Prop :=
  ∃ status, ending = .answered status ∧ ¬ (500 ≤ status ∧ status < 600)

/-- What there is to say against a request. -/
inductive RequestEnd.Fails : RequestEnd → EngineError → Prop where
  | refused {status : Nat} (low : 500 ≤ status) (high : status < 600) :
      Fails (.answered status) (.response (statusText status))
  | broken (cause : String) : Fails (.failed cause) (.client cause)

namespace HttpEngine

/-! ### One request, and some at once -/

theorem judge_eq_ok_iff {ending : RequestEnd} : judge ending = .ok () ↔ ending.IsFine := by
  cases ending with
  | answered status => simp [judge, RequestEnd.IsFine, isServerError]
  | failed cause => simp [judge, RequestEnd.IsFine]

theorem judge_eq_error_iff {ending : RequestEnd} {cause : EngineError} :
    judge ending = .error cause ↔ ending.Fails cause := by
  constructor
  · intro h
    cases ending with
    | answered status =>
      simp only [judge] at h
      split at h
      · rename_i wrong
        cases h
        simp only [isServerError, Bool.and_eq_true, decide_eq_true_eq] at wrong
        exact .refused wrong.1 wrong.2
      · cases h
    | failed cause =>
      cases h
      exact .broken cause
  · rintro (⟨low, high⟩ | _)
    · simp [judge, isServerError, low, high]
    · rfl

/-- The first of some requests that fails has a number and a cause. -/
def FirstFailure (target : Nat → RequestEnd) (first count : Nat) (cause : EngineError) : Prop :=
  ∃ i < count, (∀ k < i, (target (first + k)).IsFine) ∧ (target (first + i)).Fails cause

section

variable {target : Nat → RequestEnd} {first count : Nat} {cause : EngineError}

/-- The first request was fine, so the failure is one of the others. -/
theorem firstFailure_succ_of_isFine (fine : (target first).IsFine) :
    FirstFailure target first (count + 1) cause ↔ FirstFailure target (first + 1) count cause := by
  have shift (k : Nat) : first + 1 + k = first + (k + 1) := by omega
  constructor
  · rintro ⟨i, lt, before, fails⟩
    cases i with
    | zero =>
      rw [Nat.add_zero, ← judge_eq_error_iff, judge_eq_ok_iff.mpr fine] at fails
      cases fails
    | succ i =>
      refine ⟨i, by omega, fun k less => ?_, shift i ▸ fails⟩
      exact shift k ▸ before (k + 1) (by omega)
  · rintro ⟨i, lt, before, fails⟩
    refine ⟨i + 1, by omega, fun k less => ?_, shift i ▸ fails⟩
    cases k with
    | zero => exact fine
    | succ k => exact shift k ▸ before k (by omega)

/-- The first request was not fine, so the others make no difference. -/
theorem firstFailure_succ_of_fails {own : EngineError} (fails : (target first).Fails own) :
    FirstFailure target first (count + 1) cause ↔ own = cause := by
  have verdict := judge_eq_error_iff.mpr fails
  constructor
  · rintro ⟨i, lt, before, fails'⟩
    cases i with
    | zero =>
      rw [Nat.add_zero, ← judge_eq_error_iff, verdict] at fails'
      exact Except.error.inj fails'
    | succ i =>
      have fine := judge_eq_ok_iff.mpr (before 0 (Nat.succ_pos i))
      rw [Nat.add_zero, verdict] at fine
      cases fine
  · rintro rfl
    exact ⟨0, Nat.succ_pos _, nofun, fails⟩

/-- **An operation goes well if all its requests do.** -/
theorem judgeAll_eq_ok_iff :
    judgeAll target first count = .ok () ↔ ∀ k < count, (target (first + k)).IsFine := by
  induction count generalizing first with
  | zero => exact ⟨fun _ => nofun, fun _ => rfl⟩
  | succ count ih =>
    have shift (k : Nat) : first + 1 + k = first + (k + 1) := by omega
    rw [judgeAll, Nat.forall_lt_succ_left, ← @judge_eq_ok_iff (target (first + 0)), Nat.add_zero]
    cases verdict : judge (target first) with
    | error own => simp
    | ok => simp only [ih, shift, true_and]

/-- **Otherwise the first request that fails decides.** -/
theorem judgeAll_eq_error_iff :
    judgeAll target first count = .error cause ↔ FirstFailure target first count cause := by
  induction count generalizing first with
  | zero =>
    constructor
    · nofun
    · rintro ⟨i, lt, -⟩
      cases lt
  | succ count ih =>
    rw [judgeAll]
    cases verdict : judge (target first) with
    | error own =>
      rw [firstFailure_succ_of_fails (judge_eq_error_iff.mp verdict)]
      exact ⟨Except.error.inj, congrArg _⟩
    | ok =>
      rw [firstFailure_succ_of_isFine (judge_eq_ok_iff.mp verdict)]
      exact ih

end

/-! ### One call -/

/-- What a call does: the session after it, and the answer. -/
inductive Reply (e : HttpEngine) (target : Nat → RequestEnd) (s : EngineSession) :
    EngineCall → EngineSession → CallReply → Prop where
  | opened (cold : e.keepalive = false) : Reply e target s .connect { s with ready := true } (.ok ())
  | warmed (warm : e.keepalive = true) (fine : (target s.issued).IsFine) :
      Reply e target s .connect { ready := true, issued := s.issued + 1 } (.ok ())
  | refused {cause : EngineError} (warm : e.keepalive = true) (fails : (target s.issued).Fails cause) :
      Reply e target s .connect { s with issued := s.issued + 1 } (.error (e.warmupError cause))
  | unready (closed : s.ready = false) : Reply e target s .execute s (.error .notReady)
  | executed (ready : s.ready = true) :
      Reply e target s .execute { s with issued := s.issued + e.requests }
        (judgeAll target s.issued e.requests)
  | closed : Reply e target s .close { s with ready := false } (.ok ())

/-- An engine that is not ready sends nothing. -/
theorem call_execute_of_unready {e : HttpEngine} {target : Nat → RequestEnd} {s : EngineSession}
    (closed : s.ready = false) :
    e.call target s .execute = (s, .error .notReady) := if_neg (by rw [closed]; decide)

/-- An engine that is ready sends all requests of the operation. -/
theorem call_execute_of_ready {e : HttpEngine} {target : Nat → RequestEnd} {s : EngineSession}
    (ready : s.ready = true) :
    e.call target s .execute =
      ({ s with issued := s.issued + e.requests }, judgeAll target s.issued e.requests) := if_pos ready

/-- **A call does what one of the replies says.** -/
theorem reply_of_call (e : HttpEngine) (target : Nat → RequestEnd) (s : EngineSession) (c : EngineCall) :
    Reply e target s c (e.call target s c).1 (e.call target s c).2 := by
  cases c with
  | connect =>
    cases warm : e.keepalive with
    | false =>
      simp only [call, warm, Bool.false_eq_true, if_false]
      exact .opened warm
    | true =>
      simp only [call, warm, if_true, warmup]
      cases verdict : judge (target s.issued) with
      | ok => exact .warmed warm (judge_eq_ok_iff.mp verdict)
      | error cause => exact .refused warm (judge_eq_error_iff.mp verdict)
  | execute =>
    cases ready : s.ready with
    | false =>
      rw [call_execute_of_unready ready]
      exact .unready ready
    | true =>
      rw [call_execute_of_ready ready]
      exact .executed ready
  | close => exact .closed

section

variable {e : HttpEngine} {target : Nat → RequestEnd} {s : EngineSession}

/-- A call that opens the engine depends on the one request that it sends. -/
theorem call_connect_eq_ok_iff :
    (e.call target s .connect).2 = .ok () ↔ e.keepalive = true → (target s.issued).IsFine := by
  have reply := e.reply_of_call target s .connect
  generalize (e.call target s .connect).1 = s', (e.call target s .connect).2 = answer at reply
  cases reply with
  | opened cold => simp [cold]
  | warmed warm fine => simp [fine]
  | refused warm fails =>
    have verdict := judge_eq_error_iff.mpr fails
    rw [← judge_eq_ok_iff, verdict]
    simp [warm]

/-- If it fails, the engine is left as it was. -/
theorem of_call_connect_eq_error {cause : EngineError} (failed : (e.call target s .connect).2 = .error cause) :
    (e.call target s .connect).1.ready = s.ready ∧
      ∃ own, (target s.issued).Fails own ∧ cause = e.warmupError own := by
  have reply := e.reply_of_call target s .connect
  generalize (e.call target s .connect).1 = s', (e.call target s .connect).2 = answer at reply failed
  cases reply with
  | opened | warmed => cases failed
  | refused warm fails => exact ⟨rfl, _, fails, (Except.error.inj failed).symm⟩

end

/-! ### Calls one after another -/

/-- A call, with the session before and after it and the answer. -/
structure Exchange where
  call : EngineCall
  before : EngineSession
  reply : CallReply
  after : EngineSession

namespace Exchange

/-- Whether the engine was opened. -/
def isOpening (x : Exchange) : Bool :=
  match x.call, x.reply with
  | .connect, .ok () => true
  | _, _ => false

/-- Whether an operation was asked for while the engine was ready. -/
def isOperation (x : Exchange) : Bool := x.call = .execute && x.before.ready

end Exchange

section

variable (e : HttpEngine) (target : Nat → RequestEnd)

/-- The session after a call.  There is always an answer. -/
def advance (s : EngineSession) (c : EngineCall) : Option EngineSession := some (e.call target s c).1

/-- What is said in a call. -/
def exchange (s : EngineSession) (c : EngineCall) : List Exchange :=
  [⟨c, s, (e.call target s c).2, (e.call target s c).1⟩]

/-- The session after some calls. -/
def session (calls : List EngineCall) : EngineSession :=
  calls.foldl (fun s c => (e.call target s c).1) {}

/-- What was said in some calls. -/
abbrev history (calls : List EngineCall) : List Exchange :=
  Trace.told (e.advance target) (e.exchange target) {} calls

/-- The sessions that calls lead to, each with what was said. -/
abbrev Reached (past : List Exchange) (s : EngineSession) : Prop :=
  Trace.Reached (e.advance target) (e.exchange target) {} past s

theorem run_advance (s : EngineSession) (calls : List EngineCall) :
    Trace.run (e.advance target) s calls = some (calls.foldl (fun s c => (e.call target s c).1) s) := by
  induction calls generalizing s with
  | nil => rfl
  | cons c calls ih => exact ih _

/-- **Any calls can be made.** -/
theorem reached_history (calls : List EngineCall) :
    e.Reached target (e.history target calls) (e.session target calls) :=
  Trace.reached_of_run (e.run_advance target {} calls)

end

section

variable {e : HttpEngine} {target : Nat → RequestEnd} {past : List Exchange} {s : EngineSession}

/-- Some call has opened the engine, and none has closed it since. -/
def IsOpenAfter (past : List Exchange) : Prop :=
  ∃ before x after, past = before ++ x :: after ∧ x.isOpening = true ∧ ∀ y ∈ after, y.call ≠ .close

theorem isOpenAfter_concat {x : Exchange} :
    IsOpenAfter (past ++ [x]) ↔ x.isOpening = true ∨ x.call ≠ .close ∧ IsOpenAfter past := by
  constructor
  · rintro ⟨before, y, after, eq, opening, kept⟩
    -- The call that opened the engine is the last one, or lies before it.
    rcases List.eq_nil_or_concat after with rfl | ⟨after, last, rfl⟩
    · obtain ⟨-, same⟩ := List.append_inj' eq rfl
      rw [List.singleton_inj.mp same]
      exact .inl opening
    · rw [List.concat_eq_append] at kept
      rw [List.concat_eq_append, ← List.cons_append, ← List.append_assoc] at eq
      obtain ⟨rfl, same⟩ := List.append_inj' eq rfl
      rw [← List.singleton_inj.mp same] at kept
      refine .inr ⟨kept x (by simp), before, y, after, rfl, opening, fun z mem => ?_⟩
      exact kept z (List.mem_append_left _ mem)
  · rintro (opening | ⟨other, before, y, after, rfl, opening, kept⟩)
    · exact ⟨past, x, [], rfl, opening, nofun⟩
    · refine ⟨before, y, after ++ [x], by simp, opening, fun z mem => ?_⟩
      rcases List.mem_append.mp mem with old | new
      · exact kept z old
      · rw [List.mem_singleton.mp new]
        exact other

/-- **An engine is ready once it was opened, until it is closed.** -/
theorem Reached.ready_iff (h : e.Reached target past s) : s.ready = true ↔ IsOpenAfter past := by
  induction h with
  | start =>
    constructor
    · nofun
    · rintro ⟨before, x, after, eq, -⟩
      simp at eq
  | @next past s s' c before now ih =>
    obtain rfl : (e.call target s c).1 = s' := Option.some.inj now
    rw [exchange, isOpenAfter_concat, ← ih]
    -- A call that is refused, or comes too early, leaves the engine as it was.
    have reply := e.reply_of_call target s c
    generalize (e.call target s c).1 = s', (e.call target s c).2 = answer at reply
    cases reply with
    | opened | warmed | refused | unready | executed | closed => simp [Exchange.isOpening]

/-- **Every operation of an engine that is ready sends all its requests**, and every call that opens an
    engine with `keepalive` sends one. -/
theorem Reached.issued_eq (h : e.Reached target past s) :
    s.issued = e.requests * past.countP Exchange.isOperation +
      if e.keepalive then past.countP (·.call = .connect) else 0 := by
  induction h with
  | start => simp
  | @next past s s' c before now ih =>
    obtain rfl : (e.call target s c).1 = s' := Option.some.inj now
    rw [exchange, List.countP_append, List.countP_append, List.countP_singleton, List.countP_singleton]
    have reply := e.reply_of_call target s c
    generalize (e.call target s c).1 = s', (e.call target s c).2 = answer at reply
    cases reply with
    | opened cold => simp [Exchange.isOperation, ih, cold]
    | unready closed => simp [Exchange.isOperation, ih, closed]
    | closed => simp [Exchange.isOperation, ih]
    | warmed warm | refused warm =>
      simp only [Exchange.isOperation, ih, warm, ↓reduceIte, reduceCtorEq, decide_false, Bool.false_and,
        Bool.false_eq_true, Nat.add_zero, decide_true]
      omega
    | executed ready =>
      simp only [Exchange.isOperation, ih, ready, Nat.mul_add, decide_true, Bool.and_self, ↓reduceIte,
        Nat.mul_one, reduceCtorEq, decide_false, Bool.false_eq_true, Nat.add_zero]
      omega

end

/-! ### In a network -/

section

variable {e : HttpEngine} {network : Network} {s : EngineSession}

/-- A connection adds no more headers than those of its network do. -/
theorem sentHeaders_le {url : Url} {room number : Nat}
    (added : ∀ url number, network.added url number ≤ room)
    (few : e.headers url + (if (address url).isTarget then room else 0) ≤ headerLimit) :
    e.sentHeaders network url number ≤ headerLimit := by
  refine Nat.le_trans (Nat.add_le_add_left ?_ _) few
  split
  · exact added _ _
  · exact Nat.le_refl _

/-- Some requests have too many headers if one of them has. -/
theorem overflows_eq_true_iff {url : Url} {first count : Nat} :
    e.overflows network url first count = true ↔
      ∃ k < count, headerLimit < e.sentHeaders network url (first + k) := by
  induction count generalizing first with
  | zero => simp [overflows]
  | succ count ih =>
    have shift (k : Nat) : first + 1 + k = first + (k + 1) := by omega
    rw [overflows, Bool.or_eq_true, ih, decide_eq_true_eq, Nat.exists_lt_succ_left]
    simp only [shift, Nat.add_zero]

/-- Requests can be put together unless they have too many headers. -/
theorem fault?_isSome_iff {first count : Nat} :
    (e.fault? network first count).isSome = true ↔
      ∃ url, Url.ofText e.url = .ok url ∧
        ∃ k < count, headerLimit < e.sentHeaders network url (first + k) := by
  unfold fault?
  cases Url.ofText e.url with
  | error cause => simp
  | ok url => simp [← overflows_eq_true_iff]

/-- Where there is no request there is nothing wrong. -/
theorem fault?_zero (first : Nat) : e.fault? network first 0 = none := by
  unfold fault?
  cases Url.ofText e.url with
  | error cause => rfl
  | ok url => rfl

/-- Nothing else can be wrong with them. -/
theorem fault?_eq_some {first count : Nat} {fault : Fault}
    (h : e.fault? network first count = some fault) : fault = .headerOverflow := by
  unfold fault? at h
  split at h
  · split at h <;> cases h
    rfl
  · cases h

/-- Whether a call led to a request that could not be put together. -/
def Exchange.breaksOff (e : HttpEngine) (network : Network) (x : Exchange) : Bool :=
  (e.fault? network x.before.issued (e.sends x.before x.call)).isSome

/-- A call in a network breaks off if it leads to a request that cannot be put together. -/
theorem callIn_eq (c : EngineCall) :
    e.callIn network s c =
      if (e.fault? network s.issued (e.sends s c)).isSome then .error .headerOverflow
      else .ok (e.call (e.target network) s c) := by
  unfold callIn
  cases wrong : e.fault? network s.issued (e.sends s c) with
  | none => rfl
  | some fault => rw [fault?_eq_some wrong, Option.isSome_some, if_pos rfl]

/-- **In a network an engine answers as ever**, unless a call leads to a request that cannot be put
    together. -/
theorem calls_http (calls : List EngineCall) :
    let past := Trace.told (e.advance (e.target network)) (e.exchange (e.target network)) s calls
    (ShippedEngine.http e).calls network s calls =
      if past.any (Exchange.breaksOff e network) then .error .headerOverflow
      else .ok (past.map fun x => (x.reply, x.after.ready)) := by
  induction calls generalizing s with
  | nil => simp [Trace.told, ShippedEngine.calls]
  | cons c calls ih =>
    intro past
    let next := (e.call (e.target network) s c).1
    let later := Trace.told (e.advance (e.target network)) (e.exchange (e.target network)) next calls
    have step : (ShippedEngine.http e).calls network s (c :: calls) =
        (e.callIn network s c).bind fun answer =>
          ((ShippedEngine.http e).calls network answer.1 calls).bind fun answers =>
            .ok ((answer.2, answer.1.ready) :: answers) := rfl
    have told : past = ⟨c, s, (e.call (e.target network) s c).2, next⟩ :: later := rfl
    rw [step, callIn_eq, told, List.any_cons, List.map_cons]
    -- It breaks off now, or it does so later, or not at all.
    cases broken : (e.fault? network s.issued (e.sends s c)).isSome with
    | true => simp [Exchange.breaksOff, broken, Except.bind]
    | false =>
      have rest : (ShippedEngine.http e).calls network next calls =
          if later.any (Exchange.breaksOff e network) then .error .headerOverflow
          else .ok (later.map fun x => (x.reply, x.after.ready)) := ih
      simp only [Exchange.breaksOff, broken, Bool.false_or, Bool.false_eq_true, if_false]
      show Except.bind ((ShippedEngine.http e).calls network next calls) _ = _
      rw [rest]
      cases later.any (Exchange.breaksOff e network) <;> rfl

/-- An operation after the engine was opened sends requests, unless that call has sent one. -/
theorem any_breaksOff (some : 0 < e.requests) {url : Url} (there : Url.ofText e.url = .ok url)
    (many : ∀ number, headerLimit < e.sentHeaders network url number) :
    (e.history (e.target network) [.connect, .execute]).any (Exchange.breaksOff e network) = true := by
  have broken {first count : Nat} (some : 0 < count) : (e.fault? network first count).isSome = true :=
    fault?_isSome_iff.mpr ⟨url, there, 0, some, many _⟩
  rw [List.any_eq_true]
  cases warm : e.keepalive with
  | true =>
    refine ⟨_, List.mem_cons_self, broken ?_⟩
    show 0 < if e.keepalive then 1 else 0
    rw [warm]
    exact Nat.one_pos
  | false =>
    refine ⟨_, List.mem_cons_of_mem _ List.mem_cons_self, broken ?_⟩
    show 0 < if (e.call (e.target network) {} .connect).1.ready then e.requests else 0
    rw [call, warm]
    exact some

end

/-! ### The protocol -/

/-- What is built is the engine of the configuration. -/
theorem eq_ofConfig_of_build {kind : HttpKind} {config : RunConfig} {e : HttpEngine}
    (built : build kind config = .ok e) : e = ofConfig kind config := by
  simp only [build, bind, Except.bind, pure, Except.pure] at built
  split at built
  · split at built <;> cases built
    rfl
  · cases built
    rfl

/-- **Engines keep the protocol.**  An engine is ready exactly if some call has opened it and none has closed
    it since.  A call to open it fails only with the one request that it sends with `keepalive`, and leaves
    it as it was.  An operation sends nothing if the engine is not ready, and else a request for every
    connection; it goes well exactly if all of them do, and the first that fails says why it does not.  In
    a network this is so unless a call leads to a request with more headers than there can be: then that
    call breaks off.  No call does, in any network whose connections add some number of headers or fewer,
    exactly if the headers of the engine leave room for as many. -/
theorem sessions_keep_the_protocol {kind : HttpKind} {config : RunConfig} {e : HttpEngine}
    (built : build kind config = .ok e) :
    let count := max config.concurrency.toNat 1
    let warm := config.options.keepalive
    (∀ (target : Nat → RequestEnd) (calls : List EngineCall),
      let s := e.session target calls
      let past := e.history target calls
      (s.ready = true ↔ IsOpenAfter past) ∧
      s.issued = count * past.countP Exchange.isOperation +
        (if warm then past.countP (·.call = .connect) else 0) ∧
      ((e.call target s .connect).2 = .ok () ↔ warm = true → (target s.issued).IsFine) ∧
      (∀ cause, (e.call target s .connect).2 = .error cause →
        (e.call target s .connect).1.ready = s.ready ∧
          ∃ own, (target s.issued).Fails own ∧ cause = e.warmupError own) ∧
      (s.ready = false → e.call target s .execute = (s, .error .notReady)) ∧
      (s.ready = true →
        (e.call target s .execute).1 = { s with issued := s.issued + count } ∧
        ((e.call target s .execute).2 = .ok () ↔ ∀ k < count, (target (s.issued + k)).IsFine) ∧
        ∀ cause, (e.call target s .execute).2 = .error cause ↔
          FirstFailure target s.issued count cause)) ∧
    (∀ (network : Network) (calls : List EngineCall),
      let past := e.history (e.target network) calls
      (ShippedEngine.http e).calls network {} calls =
        if past.any (Exchange.breaksOff e network) then .error .headerOverflow
        else .ok (past.map fun x => (x.reply, x.after.ready))) ∧
    (∀ room,
      (∀ network, (∀ url number, network.added url number ≤ room) →
        ∀ calls, ∃ answers, (ShippedEngine.http e).calls network {} calls = .ok answers) ↔
      ∀ url, Url.ofText e.url = .ok url →
        config.options.complexity.toNat + 1 + (if url.hasReadableCredentials then 1 else 0) +
          (if (address url).isTarget then room else 0) ≤ headerLimit) := by
  obtain rfl := eq_ofConfig_of_build built
  intro count warm
  refine ⟨fun target calls => ?_, fun network calls => calls_http calls, fun room => ⟨?_, ?_⟩⟩
  · intro s past
    have reached := reached_history (ofConfig kind config) target calls
    refine ⟨reached.ready_iff, reached.issued_eq, call_connect_eq_ok_iff,
      fun cause failed => of_call_connect_eq_error failed, fun closed => call_execute_of_unready closed,
      fun ready => ?_⟩
    rw [call_execute_of_ready ready]
    exact ⟨rfl, judgeAll_eq_ok_iff, fun cause => judgeAll_eq_error_iff⟩
  · -- One of two calls sends a request, in a network that adds as many headers as it may.
    intro answered url there
    refine Nat.le_of_not_lt fun many => ?_
    let full : Network := { Network.offline with added := fun _ _ => room }
    have many (number : Nat) : headerLimit < (ofConfig kind config).sentHeaders full url number := by
      unfold sentHeaders headers
      exact many
    obtain ⟨answers, came⟩ := answered full (fun _ _ => Nat.le_refl _) [.connect, .execute]
    rw [calls_http, any_breaksOff (requests_pos kind config) there many, if_pos rfl] at came
    cases came
  · intro few network added calls
    have fine : ((ofConfig kind config).history ((ofConfig kind config).target network) calls).any
        (Exchange.breaksOff (ofConfig kind config) network) = false := by
      refine List.any_eq_false.mpr fun x _ broken => ?_
      obtain ⟨url, there, k, -, many⟩ := fault?_isSome_iff.mp broken
      exact Nat.not_le_of_lt many (sentHeaders_le added (few url there))
    rw [calls_http, fine]
    exact ⟨_, rfl⟩

/-- Three connections to a target that is kept warm. -/
def threefold : RunConfig :=
  { engine := "http", host := "[::1]:80/p", rate := 90, concurrency := 3, duration := .clamped 1000000000 }

/-- A target that fails twice in one operation. -/
def shaky : Nat → RequestEnd
  | 5 => .answered 503
  | 6 => .failed "connection reset"
  | _ => .answered 200

theorem sessions_keep_the_protocol_threefold :
    let e := ofConfig .plain threefold
    let s := e.session shaky [.execute, .connect, .execute]
    build .plain threefold = .ok e ∧ s.ready = true ∧ s.issued = 4 ∧
      (e.call shaky s .execute).1.issued = 7 ∧
      (e.call shaky s .execute).2 = .error (.response (statusText 503)) ∧
      ∀ network, (∀ url number, network.added url number ≤ 1) →
        ∀ calls, ∃ answers, (ShippedEngine.http e).calls network {} calls = .ok answers := by
  intro e s
  have built : build .plain threefold = .ok e := by rfl
  obtain ⟨kept, -, always⟩ := sessions_keep_the_protocol built
  obtain ⟨opened, issued, -, -, -, operates⟩ := kept shaky [.execute, .connect, .execute]
  have ready : s.ready = true := by
    refine opened.mpr ⟨_, _, _, rfl, rfl, fun y mem => ?_⟩
    rw [List.mem_singleton.mp mem]
    decide
  have four : s.issued = 4 := issued
  obtain ⟨sent, -, failed⟩ := operates ready
  have first : FirstFailure shaky s.issued (max threefold.concurrency.toNat 1)
      (.response (statusText 503)) := by
    rw [four]
    refine ⟨1, by decide, fun k lt => ?_, .refused (by decide) (by decide)⟩
    obtain rfl : k = 0 := by omega
    exact ⟨200, rfl, by decide⟩
  refine ⟨built, ready, four, ?_, (failed _).mpr first, ?_⟩
  · rw [sent]
    exact congrArg (· + 3) four
  · refine (always 1).mpr fun url there => ?_
    have few : threefold.options.complexity.toNat = 1 := rfl
    rw [few]
    split <;> split <;> decide

/-- Requests of one header more than there can be. -/
def laden : RunConfig :=
  { engine := "http", host := "[::1]:80/p", rate := 100, duration := .clamped 1000000000
    options := { complexity := 24576, keepalive := false } }

/-- **Calls break off.**  A configuration that passes all checks can ask for more headers than a request can
    have: the engine is built and opened, and its first operation breaks off. -/
theorem laden_breaks_off :
    (∃ plan, laden.validate shippedEngines = .ok plan) ∧
    ∃ e, build .plain laden = .ok e ∧
      (ShippedEngine.http e).calls .offline {} [.connect] = .ok [(.ok (), true)] ∧
      (ShippedEngine.http e).calls .offline {} [.connect, .execute] = .error .headerOverflow ∧
      ¬ ∃ answers, (ShippedEngine.http e).calls .offline {} [.connect, .execute] = .ok answers := by
  have valid : (laden.validate shippedEngines).isOk = true := by decide +kernel
  have fine : (Url.ofText (ofConfig .plain laden).url).isOk = true := by decide +kernel
  obtain ⟨plan, accepted⟩ := isOk_iff.mp valid
  obtain ⟨url, there⟩ := isOk_iff.mp fine
  have many (number : Nat) : headerLimit < (ofConfig .plain laden).sentHeaders .offline url number := by
    have own : (ofConfig .plain laden).complexity = headerLimit := rfl
    unfold sentHeaders headers
    omega
  have broken : (ShippedEngine.http (ofConfig .plain laden)).calls .offline {} [.connect, .execute] =
      .error .headerOverflow := by
    rw [calls_http, any_breaksOff (requests_pos _ _) there many]
    rfl
  have opened : (ShippedEngine.http (ofConfig .plain laden)).calls .offline {} [.connect] =
      .ok [(.ok (), true)] := by
    rw [calls_http]
    show (if ((ofConfig .plain laden).fault? .offline 0 0).isSome || false then _ else _) = _
    rw [fault?_zero]
    rfl
  refine ⟨⟨plan, accepted⟩, _, rfl, opened, broken, ?_⟩
  rintro ⟨answers, came⟩
  rw [broken] at came
  cases came

end HttpEngine

end LoadGen
