import LoadGen.Proofs.Text.Numerals
import LoadGen.Proofs.Text.Segments
import LoadGen.Service
import Mathlib.Data.List.Forall2

namespace LoadGen

/-!
# What the mock service serves

A handler runs for the paths of three shapes whose places hold numbers.  Every run is counted once, and
nothing else is.  The place in the middle of a path may be empty, which is no number.

* `Route.path`, `Route.IsProper`, `Route.ofPath?_eq_some_iff` — the paths of a shape, which are those that
  are found to have it;
* `Parameter.Holds`, `Route.Asks`, `Route.read_eq_ok_iff` — the numbers in the places, which are those that
  are read;
* `IsServed`, `Answered` — for which paths a handler runs, and which status is answered;
* `MockService.answered_handle`, `MockService.served_handleAll` — one request, and all of them;
* `MockService.routes_and_counts` — what follows for every sequence of requests.
-/

namespace Service

variable {text raw : String} {n : Nat} {order : Order} {route : Route} {parameter : Parameter}

/-! ### Shapes of paths -/

/-- Whether a text is a segment with something in it. -/
def IsSegment (text : String) : Prop := text ≠ "" ∧ '/' ∉ text.toList

namespace Route

/-- The path of a shape, with texts in its places. -/
def path : Route → String
  | delay millis => "/delay/ms/" ++ millis
  | status code => "/status/" ++ code
  | statusDelay code millis => "/status/" ++ code ++ "/delay/ms/" ++ millis

/-- Whether the texts can stand in the places: the last one holds something. -/
def IsProper : Route → Prop
  | delay millis => IsSegment millis
  | status code => IsSegment code
  | statusDelay code millis => '/' ∉ code.toList ∧ IsSegment millis

/-- Whether every place holds something. -/
def IsFull : Route → Prop
  | delay millis => IsSegment millis
  | status code => IsSegment code
  | statusDelay code millis => IsSegment code ∧ IsSegment millis

theorem IsFull.isProper (full : route.IsFull) : route.IsProper := by
  cases route with
  | delay millis => exact full
  | status code => exact full
  | statusDelay code millis => exact ⟨full.1.2, full.2⟩

/-- The segments of the path. -/
def parts : Route → List String
  | delay millis => ["", "delay", "ms", millis]
  | status code => ["", "status", code]
  | statusDelay code millis => ["", "status", code, "delay", "ms", millis]

/-- What stands in the last place. -/
def last : Route → String
  | delay millis => millis
  | status code => code
  | statusDelay _ millis => millis

theorem intercalate_parts (route : Route) : "/".intercalate route.parts = route.path := by
  cases route <;> simp [parts, path, ← String.toList_inj]

theorem isProper_iff :
    route.IsProper ↔ (∀ part ∈ route.parts, '/' ∉ part.toList) ∧ route.last ≠ "" := by
  cases route with
  | delay millis | status code => simp [IsProper, IsSegment, parts, last, and_comm]
  | statusDelay code millis =>
    simp [IsProper, IsSegment, parts, last, and_comm, and_left_comm]

theorem segments_eq_parts_iff :
    Text.segments '/' text = route.parts ↔
      text = route.path ∧ ∀ part ∈ route.parts, '/' ∉ part.toList := by
  have some : route.parts ≠ [] := by cases route <;> exact List.cons_ne_nil _ _
  rw [Text.segments_eq_iff some, ← intercalate_parts]
  rfl

theorem ofPath?_eq_some_iff_segments :
    ofPath? text = some route ↔ Text.segments '/' text = route.parts ∧ route.last ≠ "" := by
  constructor
  · intro found
    unfold ofPath? at found
    split at found
    -- Three lists of segments have a shape, unless the last one is empty.
    case h_4 => cases found
    all_goals
      rename_i cut
      split at found
      · cases found
      · rename_i filled
        cases found
        exact ⟨cut, mt String.isEmpty_iff.mpr filled⟩
  · rintro ⟨cut, filled⟩
    unfold ofPath?
    rw [cut]
    have filled : route.last.isEmpty = false := by simpa using filled
    cases route with
    | delay millis | status code | statusDelay code millis => exact if_neg (ne_true_of_eq_false filled)

/-- **The paths of a shape are those that are found to have it.** -/
theorem ofPath?_eq_some_iff : ofPath? text = some route ↔ text = route.path ∧ route.IsProper := by
  rw [ofPath?_eq_some_iff_segments, segments_eq_parts_iff, isProper_iff, and_assoc]

end Route

/-! ### Numbers in their places -/

/-- Whether what stands in a place is a number that its parameter can be. -/
def Parameter.Holds (parameter : Parameter) (raw : String) (n : Nat) : Prop :=
  ∃ text, Text.percentDecodeText? raw = some text ∧ Text.IsNumeral text.toList n ∧ n < parameter.limit

/-- Nothing is no number. -/
theorem Parameter.Holds.ne_empty (holds : parameter.Holds raw n) : raw ≠ "" := by
  rintro rfl
  obtain ⟨text, decoded, ⟨digits, spelling, some, -⟩, -⟩ := holds
  have none : Text.percentDecodeText? "" = Option.some "" := by decide
  obtain rfl := Option.some.inj (none.symm.trans decoded)
  rcases spelling with same | signed
  · exact some same.symm
  · cases signed

namespace Route

/-- Whether the places hold the numbers of an order. -/
def Asks : Route → Order → Prop
  | delay millis, order => order.status = 200 ∧ Parameter.delay.Holds millis order.delay
  | status code, order => Parameter.code.Holds code order.status ∧ order.delay = 0
  | statusDelay code millis, order =>
    Parameter.code.Holds code order.status ∧ Parameter.delay.Holds millis order.delay

theorem decode_eq_ok_iff : decode parameter raw = .ok text ↔ Text.percentDecodeText? raw = some text := by
  unfold decode
  cases Text.percentDecodeText? raw <;> simp

theorem number_eq_ok_iff {refusal : Rejection} :
    number parameter text refusal = .ok n ↔ Text.IsNumeral text.toList n ∧ n < parameter.limit := by
  rw [← Text.readUnsigned_eq_ok_iff]
  unfold number number?
  cases Text.readUnsigned parameter.limit text.toList <;> simp [Except.toOption]

/-- **The numbers that are read are those that the places hold.** -/
theorem read_eq_ok_iff : route.read = .ok order ↔ route.Asks order := by
  cases route with
  | delay raw =>
    simp only [read, bind_eq_ok_iff, decode_eq_ok_iff, number_eq_ok_iff]
    constructor
    · rintro ⟨text, decoded, n, number, made⟩
      cases made
      exact ⟨rfl, text, decoded, number⟩
    · rintro ⟨ok, text, decoded, number⟩
      refine ⟨text, decoded, order.delay, number, ?_⟩
      rw [← ok]
      rfl
  | status raw =>
    simp only [read, bind_eq_ok_iff, decode_eq_ok_iff, number_eq_ok_iff]
    constructor
    · rintro ⟨text, decoded, n, number, made⟩
      cases made
      exact ⟨⟨text, decoded, number⟩, rfl⟩
    · rintro ⟨⟨text, decoded, number⟩, prompt⟩
      refine ⟨text, decoded, order.status, number, ?_⟩
      rw [← prompt]
      rfl
  | statusDelay rawCode rawMillis =>
    simp only [read, bind_eq_ok_iff, decode_eq_ok_iff, number_eq_ok_iff]
    constructor
    · rintro ⟨code, decoded, millis, decoded', n, number, d, number', made⟩
      cases made
      exact ⟨⟨code, decoded, number⟩, millis, decoded', number'⟩
    · rintro ⟨⟨code, decoded, number⟩, millis, decoded', number'⟩
      exact ⟨code, decoded, millis, decoded', order.status, number, order.delay, number', rfl⟩

/-- A path whose places hold numbers holds something in all of them. -/
theorem IsProper.isFull (proper : route.IsProper) (asks : route.Asks order) : route.IsFull := by
  cases route with
  | delay millis => exact proper
  | status code => exact proper
  | statusDelay code millis => exact ⟨⟨asks.1.ne_empty, proper.1⟩, proper.2⟩

end Route

/-! ### Served requests and their answers -/

/-- Whether a handler runs for a path: it has a shape whose places hold numbers. -/
def IsServed (text : String) : Prop :=
  ∃ (route : Route) (order : Order), text = route.path ∧ route.IsFull ∧ route.Asks order

/-- What the handler of a path is asked to do, if there is one and the numbers can be read. -/
def order? (text : String) : Option Order := (Route.ofPath? text).bind fun route => route.read.toOption

theorem order?_eq_some_iff : order? text = some order ↔
    ∃ route : Route, text = route.path ∧ route.IsFull ∧ route.Asks order := by
  have read (route : Route) : route.read.toOption = some order ↔ route.Asks order := by
    rw [← Route.read_eq_ok_iff]
    cases route.read <;> simp [Except.toOption]
  unfold order?
  simp only [Option.bind_eq_some_iff, Route.ofPath?_eq_some_iff, read, and_assoc]
  constructor
  · rintro ⟨route, same, proper, asks⟩
    exact ⟨route, same, proper.isFull asks, asks⟩
  · rintro ⟨route, same, full, asks⟩
    exact ⟨route, same, full.isProper, asks⟩

theorem isServed_iff : IsServed text ↔ (order? text).isSome = true := by
  unfold IsServed
  rw [exists_comm, Option.isSome_iff_exists]
  simp only [order?_eq_some_iff]

instance : DecidablePred IsServed := fun _ => decidable_of_iff _ isServed_iff.symm

/-- The status that is answered to a path. -/
structure Answered (text : String) (answer : Nat) : Prop where
  delay : ∀ millis n, text = (Route.delay millis).path → IsSegment millis →
    Parameter.delay.Holds millis n → answer = 200
  status : ∀ code n, text = (Route.status code).path → IsSegment code →
    Parameter.code.Holds code n → answer = if 100 ≤ n ∧ n ≤ 999 then n else 400
  statusDelay : ∀ code millis n d, text = (Route.statusDelay code millis).path → IsSegment code →
    IsSegment millis → Parameter.code.Holds code n → Parameter.delay.Holds millis d →
      answer = if 100 ≤ n ∧ n ≤ 999 then n else 400
  /-- The path has a shape, but its places do not hold numbers. -/
  rejected : ∀ route : Route, text = route.path → route.IsProper → ¬ IsServed text → answer = 400
  unknown : (∀ route : Route, route.IsProper → text ≠ route.path) → answer = 404

end Service

namespace MockService

open Service

variable {s : MockService} {request : Request} {order : Order}

theorem handle_of_order (asked : order? request.path = some order) :
    s.handle request = (⟨(s.served + 1) % wordCount⟩, carryOut order) := by
  obtain ⟨route, found, read⟩ := Option.bind_eq_some_iff.mp asked
  unfold handle
  rw [found]
  cases made : route.read with
  | error rejection =>
    rw [made] at read
    cases read
  | ok order' =>
    rw [made] at read
    cases read
    simp only [made]

/-- Without a handler the service stays as it is, and the answer depends on whether the path has a
    shape. -/
theorem handle_of_not_served (unserved : ¬ IsServed request.path) :
    (s.handle request).1 = s ∧
      (s.handle request).2.status = if (Route.ofPath? request.path).isSome then 400 else 404 := by
  unfold handle
  cases found : Route.ofPath? request.path with
  | none => exact ⟨rfl, rfl⟩
  | some route =>
    cases read : route.read with
    | error rejection => simp [read]
    | ok order =>
      obtain ⟨same, proper⟩ := Route.ofPath?_eq_some_iff.mp found
      have asks := Route.read_eq_ok_iff.mp read
      exact absurd ⟨route, order, same, proper.isFull asks, asks⟩ unserved

/-- A handler counts once, and nothing else does. -/
theorem served_handle (s : MockService) (request : Request) :
    (s.handle request).1.served =
      if IsServed request.path then (s.served + 1) % wordCount else s.served := by
  by_cases served : IsServed request.path
  · obtain ⟨order, asked⟩ := Option.isSome_iff_exists.mp (isServed_iff.mp served)
    rw [if_pos served, handle_of_order asked]
  · rw [if_neg served, (handle_of_not_served served).1]

/-- **Every request is answered as its path says.** -/
theorem answered_handle (s : MockService) (request : Request) :
    Answered request.path (s.handle request).2.status := by
  have handled {route : Route} {order : Order} (same : request.path = route.path)
      (full : route.IsFull) (asks : route.Asks order) :
      (s.handle request).2.status = statusFor order.status := by
    rw [handle_of_order (order?_eq_some_iff.mpr ⟨route, same, full, asks⟩)]
    rfl
  constructor
  case delay =>
    intro millis n same place number
    have asks : (Route.delay millis).Asks ⟨200, n⟩ := ⟨rfl, number⟩
    exact handled same place asks
  case status =>
    intro code n same place number
    have asks : (Route.status code).Asks ⟨n, 0⟩ := ⟨number, rfl⟩
    exact handled same place asks
  case statusDelay =>
    intro code millis n d same place place' number number'
    have asks : (Route.statusDelay code millis).Asks ⟨n, d⟩ := ⟨number, number'⟩
    exact handled same ⟨place, place'⟩ asks
  case rejected =>
    intro route same proper unserved
    rw [(handle_of_not_served unserved).2, Route.ofPath?_eq_some_iff.mpr ⟨same, proper⟩]
    rfl
  case unknown =>
    intro shapeless
    have unserved : ¬ IsServed request.path := by
      rintro ⟨route, order, same, full, -⟩
      exact shapeless route full.isProper same
    have none : Route.ofPath? request.path = none := by
      rw [Option.eq_none_iff_forall_ne_some]
      intro route found
      obtain ⟨same, proper⟩ := Route.ofPath?_eq_some_iff.mp found
      exact shapeless route proper same
    rw [(handle_of_not_served unserved).2, none]
    rfl

/-- A request comes before the rest. -/
theorem handleAll_cons (s : MockService) (request : Request) (rest : List Request) :
    s.handleAll (request :: rest) =
      (((s.handle request).1.handleAll rest).1,
        (s.handle request).2 :: ((s.handle request).1.handleAll rest).2) :=
  rfl

/-- The count stays in its word. -/
theorem served_handle_lt (word : s.served < wordCount) (request : Request) :
    (s.handle request).1.served < wordCount := by
  rw [served_handle]
  split
  · exact Nat.mod_lt _ (by decide)
  · exact word

/-- **Requests are counted one by one.** -/
theorem served_handleAll (word : s.served < wordCount) (requests : List Request) :
    (s.handleAll requests).1.served =
      (s.served + requests.countP fun request => IsServed request.path) % wordCount := by
  induction requests generalizing s with
  | nil => exact (Nat.mod_eq_of_lt word).symm
  | cons request rest ih =>
    rw [handleAll_cons, ih (served_handle_lt word request), served_handle]
    by_cases served : IsServed request.path
    · rw [if_pos served, List.countP_cons_of_pos (by simpa using served), Nat.mod_add_mod,
        Nat.add_right_comm, Nat.add_assoc]
    · rw [if_neg served, List.countP_cons_of_neg (by simpa using served)]

theorem answered_handleAll (s : MockService) (requests : List Request) :
    List.Forall₂ (fun request response => Answered request.path response.status) requests
      (s.handleAll requests).2 := by
  induction requests generalizing s with
  | nil => exact .nil
  | cons request rest ih =>
    rw [handleAll_cons]
    exact .cons (answered_handle s request) (ih (s.handle request).1)

/-- **The service routes and counts exactly.**  A handler runs for a path of one of the three shapes that
    has something in every place and holds numbers there; it is counted in a 64-bit word and carries out
    what the path asks for.  Any other request leaves the service as it is.  So the count grows by the
    number of such requests, whatever else is asked for in between, and every answer has the status that
    its path says. -/
theorem routes_and_counts (s : MockService) (word : s.served < wordCount) (requests : List Request) :
    (∀ (request : Request) (route : Route) (order : Order),
      request.path = route.path → route.IsFull → route.Asks order →
        s.handle request = (⟨(s.served + 1) % wordCount⟩, carryOut order)) ∧
    (∀ request : Request, ¬ IsServed request.path → (s.handle request).1 = s) ∧
    (s.handleAll requests).1.served =
      (s.served + requests.countP fun request => IsServed request.path) % wordCount ∧
    List.Forall₂ (fun request response => Answered request.path response.status) requests
      (s.handleAll requests).2 := by
  refine ⟨fun request route order same full asks => ?_, fun request unserved => ?_,
    served_handleAll word requests, answered_handleAll s requests⟩
  · exact handle_of_order (order?_eq_some_iff.mpr ⟨route, same, full, asks⟩)
  · exact (handle_of_not_served unserved).1

/-- Three requests for a handler, and two for none. -/
def tour : List Request :=
  [⟨"GET", "/delay/ms/5"⟩, ⟨"POST", "/status/%32%30%34"⟩, ⟨"GET", "/status//delay/ms/1"⟩,
    ⟨"HEAD", "/status/99/delay/ms/+1"⟩, ⟨"GET", "/status/204/"⟩]

theorem routes_and_counts_tour :
    handle {} ⟨"POST", "/status/%32%30%34"⟩ = (⟨1⟩, { status := 204 }) ∧
    (handle {} ⟨"GET", "/status/204/"⟩).1 = {} ∧
    (handleAll {} tour).1.served = 3 ∧
    List.Forall₂ (fun request response => Answered request.path response.status) tour
      (handleAll {} tour).2 := by
  obtain ⟨handled, unhandled, counted, answered⟩ := routes_and_counts {} (by decide) tour
  have asks : (Route.status "%32%30%34").Asks ⟨204, 0⟩ := Route.read_eq_ok_iff.mp (by decide)
  have count : tour.countP (fun request => IsServed request.path) = 3 := by decide
  rw [count] at counted
  refine ⟨?_, unhandled _ (by decide), counted, answered⟩
  exact handled _ (.status "%32%30%34") ⟨204, 0⟩ (by decide) ⟨by decide, by decide⟩ asks

/-- **The middle of a path may be empty, and the count has an end.**  The first path has none of the three
    shapes with something in every place, and yet it is known, and what is missing is refused as a number.
    A count that fills its word goes back to zero. -/
theorem empty_place_and_full_count :
    (∀ route : Route, route.IsFull → "/status//delay/ms/1" ≠ route.path) ∧
    (handle {} ⟨"GET", "/status//delay/ms/1"⟩).2.status = 400 ∧
    (handle ⟨wordCount - 1⟩ ⟨"GET", "/delay/ms/0"⟩).1.served = 0 := by
  refine ⟨fun route full same => ?_, by decide, by decide⟩
  have known : Route.ofPath? "/status//delay/ms/1" = some (.statusDelay "" "1") := by decide
  have found := Route.ofPath?_eq_some_iff.mpr ⟨same, full.isProper⟩
  obtain rfl := Option.some.inj (known.symm.trans found)
  exact full.1.1 rfl

end MockService

end LoadGen
