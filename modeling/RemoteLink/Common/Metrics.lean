import Mathlib.Algebra.Order.BigOperators.Group.List
import Mathlib.Algebra.Ring.Nat
import RemoteLink.Library.InFlight
import RemoteLink.Library.Runs

set_option autoImplicit false

/-!
# Metrics

The registry of a process: counters, gauges and histograms in atomic cells, without a lock. Threads
record events and scrape the registry side by side, so the accesses to the cells interleave. The
floating-point numbers are a type with the operations that are used of them.

## Main definitions

* `MetricsOp`, `program` — what a thread does to the registry, as accesses to its cells.
* `MetricsWorld`, `metricsSystem` — the cells and the threads; all interleavings.
* `expected` — what a counter would be after some operations, each counted in full.

## Main results

* `metrics_no_lost_update` — no update is lost; a counter lags by the operations under way at most,
  and what a scrape reads lies between what was recorded before it and what was begun at its end.
-/

namespace RemoteLink.Common

open Library

/-! ## Cells -/

/-- How a session ends up. -/
inductive SessionResult where
  | accept
  | reject
  | end
  deriving Repr, DecidableEq

/-- The kind of path that was selected. -/
inductive IcePath where
  | host
  | srflx
  | relay
  deriving Repr, DecidableEq

/-- The histograms. -/
inductive Histogram where
  | glassToGlassMs
  | inputToGlassMs
  deriving Repr, DecidableEq

/-- The cells with counts. -/
inductive Counter where
  | sessions (result : SessionResult)
  | authFail
  | inputEvents
  | inputDrops
  | icePath (path : IcePath)
  | bucket (histogram : Histogram) (index : Nat)
  | count (histogram : Histogram)
  deriving Repr, DecidableEq

/-- The cells with floating-point numbers. -/
inductive FloatCell where
  | skewMs
  | inputDropRate
  | sum (histogram : Histogram)
  deriving Repr, DecidableEq

/-- Floating-point numbers by their bits, with the operations that are used of them. -/
structure FloatOps (F : Type) where
  zero : F
  ofU64 : UInt64 → F
  add : F → F → F
  div : F → F → F
  lt : F → F → Bool
  le : F → F → Bool

/-! ## Operations -/

/-- What a thread does to the registry. -/
inductive MetricsOp (F : Type) where
  | incSessions (result : SessionResult)
  | incAuthFail
  | incInputEvent
  | incInputDrop
  | setSkewMs (skewMs : F)
  | observe (histogram : Histogram) (ms : F)
  | incIcePath (path : IcePath)
  | encodePrometheus

/-- An access to a cell. A compare-and-swap puts the sum of what was loaded and a value. -/
inductive MetricsAction (F : Type) where
  | add (counter : Counter)
  | loadDrops
  | loadEvents
  | storeRate
  | storeSkew (skewMs : F)
  | loadSum (histogram : Histogram)
  | casSum (histogram : Histogram) (ms : F)
  | load (counter : Counter)
  | loadFloat (cell : FloatCell)

section Programs

variable {F : Type} (ops : FloatOps F) (bounds : List F)

/-- The accesses that work out the rate of dropped events anew. -/
def refreshInputDropRate : List (MetricsAction F) := [.loadDrops, .loadEvents, .storeRate]

/-- The accesses of an observation: every bucket from below whose bound is not exceeded, the count
and the sum. -/
def observeActions (histogram : Histogram) (ms : F) : List (MetricsAction F) :=
  ((List.range bounds.length).filter fun i =>
      (bounds[i]?).elim false fun upper => ops.le ms upper).map
    (fun i => .add (.bucket histogram i)) ++
      [.add (.count histogram), .loadSum histogram, .casSum histogram ms]

/-- The accesses that write out a histogram. -/
def encodeHistogram (histogram : Histogram) : List (MetricsAction F) :=
  (List.range bounds.length).map (fun i => .load (.bucket histogram i)) ++
    [.load (.count histogram), .loadFloat (.sum histogram)]

/-- The accesses of an operation, in order. -/
def program : MetricsOp F → List (MetricsAction F)
  | .incSessions result => [.add (.sessions result)]
  | .incAuthFail => [.add .authFail]
  | .incInputEvent => .add .inputEvents :: refreshInputDropRate
  | .incInputDrop => .add .inputDrops :: refreshInputDropRate
  | .setSkewMs skewMs => [.storeSkew skewMs]
  | .observe histogram ms => observeActions ops bounds histogram ms
  | .incIcePath path => [.add (.icePath path)]
  | .encodePrometheus =>
    [.load (.sessions .accept), .load (.sessions .end), .load (.sessions .reject), .load .authFail,
      .load .inputEvents, .load .inputDrops, .loadFloat .inputDropRate, .loadFloat .skewMs,
      .load (.icePath .host), .load (.icePath .relay), .load (.icePath .srflx)] ++
      encodeHistogram bounds .glassToGlassMs ++ encodeHistogram bounds .inputToGlassMs

end Programs

/-! ## Threads -/

/-- What a scrape has read. The two lists of operations only record history: those that had returned
when it began, and those that had begun when it ended. -/
structure Scrape (F : Type) where
  counters : List (Counter × UInt64)
  floats : List (FloatCell × F)
  before : List (MetricsOp F)
  after : List (MetricsOp F)

/-- A thread: its operation, the accesses that it has done and those to come, and what it has
loaded. The operations that had returned when it began only record history. -/
structure MetricsThread (F : Type) where
  op : Option (MetricsOp F)
  past : List (MetricsAction F)
  todo : List (MetricsAction F)
  drops : UInt64
  events : UInt64
  cur : F
  counters : List (Counter × UInt64)
  floats : List (FloatCell × F)
  before : List (MetricsOp F)

/-- The cells and the threads. The last fields only record history: the operations that have begun
and those that have returned, the values in the order in which they were added to a sum, and what
scrapes have read. -/
structure MetricsWorld (F ι : Type) where
  counts : Counter → UInt64
  cells : FloatCell → F
  threads : ι → MetricsThread F
  begun : List (MetricsOp F)
  returned : List (MetricsOp F)
  added : Histogram → List F
  scrapes : List (Scrape F)

/-- A thread begins an operation, makes its next access, or returns. A compare-and-swap may fail for
no reason. -/
inductive MetricsStep (F ι : Type) where
  | begin (thread : ι) (op : MetricsOp F)
  | act (thread : ι) (spurious : Bool)
  | return (thread : ι)

/-- A thread without an operation. -/
def MetricsThread.idle {F : Type} (zero : F) : MetricsThread F :=
  ⟨none, [], [], 0, 0, zero, [], [], []⟩

/-- A thread that begins an operation. -/
def MetricsThread.start {F : Type} (ops : FloatOps F) (bounds : List F) (op : MetricsOp F)
    (before : List (MetricsOp F)) : MetricsThread F :=
  ⟨some op, [], program ops bounds op, 0, 0, ops.zero, [], [], before⟩

section Steps

variable {F ι : Type} [DecidableEq F] [DecidableEq ι] (ops : FloatOps F) (bounds : List F)

/-- The rate of dropped events. -/
def dropRate (drops events : UInt64) : F :=
  let total := ops.add (ops.ofU64 drops) (ops.ofU64 events)
  if ops.lt ops.zero total then ops.div (ops.ofU64 drops) total else ops.zero

/-- A thread has done its next access. -/
def MetricsThread.advance (th : MetricsThread F) (action : MetricsAction F)
    (todo : List (MetricsAction F)) : MetricsThread F :=
  { th with past := th.past ++ [action], todo := todo }

/-- The next access of a thread. -/
def MetricsWorld.act (w : MetricsWorld F ι) (t : ι) (spurious : Bool)
    (action : MetricsAction F) (todo : List (MetricsAction F)) : MetricsWorld F ι :=
  let th := (w.threads t).advance action todo
  match action with
  | .add c =>
    { w with
      counts := Function.update w.counts c (w.counts c + 1)
      threads := Function.update w.threads t th }
  | .loadDrops =>
    { w with threads := Function.update w.threads t { th with drops := w.counts .inputDrops } }
  | .loadEvents =>
    { w with threads := Function.update w.threads t { th with events := w.counts .inputEvents } }
  | .storeRate =>
    { w with
      cells := Function.update w.cells .inputDropRate (dropRate ops th.drops th.events)
      threads := Function.update w.threads t th }
  | .storeSkew skewMs =>
    { w with
      cells := Function.update w.cells .skewMs skewMs
      threads := Function.update w.threads t th }
  | .loadSum h =>
    { w with threads := Function.update w.threads t { th with cur := w.cells (.sum h) } }
  | .casSum h ms =>
    if w.cells (.sum h) = th.cur ∧ spurious = false then
      { w with
        cells := Function.update w.cells (.sum h) (ops.add th.cur ms)
        threads := Function.update w.threads t th
        added := Function.update w.added h (w.added h ++ [ms]) }
    else
      -- the loop goes round with what is there
      { w with threads := Function.update w.threads t { w.threads t with cur := w.cells (.sum h) } }
  | .load c =>
    { w with
      threads := Function.update w.threads t
        { th with counters := th.counters ++ [(c, w.counts c)] } }
  | .loadFloat cell =>
    { w with
      threads := Function.update w.threads t
        { th with floats := th.floats ++ [(cell, w.cells cell)] } }

/-- All interleavings of the threads' accesses, from a registry without records. -/
def metricsSystem : System (MetricsWorld F ι) (MetricsStep F ι) where
  init w := w = ⟨fun _ => 0, fun _ => ops.zero, fun _ => .idle ops.zero, [], [], fun _ => [], []⟩
  step w
    | .begin t op =>
      match (w.threads t).op with
      | some _ => none
      | none =>
        some { w with
          threads := Function.update w.threads t (.start ops bounds op w.returned)
          begun := op :: w.begun }
    | .act t spurious =>
      match (w.threads t).todo with
      | [] => none
      | action :: todo => some (w.act ops t spurious action todo)
    | .return t =>
      match (w.threads t).op, (w.threads t).todo with
      | some op, [] =>
        some { w with
          threads := Function.update w.threads t (.idle ops.zero)
          returned := op :: w.returned
          scrapes := w.scrapes ++ (match op with
            | .encodePrometheus =>
              [⟨(w.threads t).counters, (w.threads t).floats, (w.threads t).before, w.begun⟩]
            | _ => []) }
      | _, _ => none

end Steps

/-! ## What operations are worth -/

section Worth

variable {F : Type} (ops : FloatOps F) (bounds : List F)

/-- How often accesses add to a counter. -/
def adds (c : Counter) (actions : List (MetricsAction F)) : Nat :=
  actions.countP fun
    | .add c' => decide (c' = c)
    | _ => false

/-- The values that accesses add to a sum. -/
def sumValues (h : Histogram) (actions : List (MetricsAction F)) : List F :=
  actions.filterMap fun
    | .casSum h' ms => if h' = h then some ms else none
    | _ => none

/-- A counter after some operations, each counted in full. -/
def expected (done : List (MetricsOp F)) (c : Counter) : Nat :=
  (done.map fun op => adds c (program ops bounds op)).sum

/-- The values that some operations observe. -/
def observed (done : List (MetricsOp F)) (h : Histogram) : List F :=
  done.flatMap fun op => sumValues h (program ops bounds op)

/-- Whether an operation observes a value of a histogram that passes a test. -/
def MetricsOp.observes (h : Histogram) (test : F → Bool) : MetricsOp F → Bool
  | .observe h' ms => decide (h' = h) && test ms
  | _ => false

variable {ops bounds} {c : Counter} {h : Histogram} {actions actions' : List (MetricsAction F)}

@[simp] theorem adds_append : adds c (actions ++ actions') = adds c actions + adds c actions' :=
  List.countP_append

theorem adds_cons (a : MetricsAction F) : adds c (a :: actions) = adds c [a] + adds c actions := by
  rw [← adds_append]
  rfl

theorem sumValues_append :
    sumValues h (actions ++ actions') = sumValues h actions ++ sumValues h actions' :=
  List.filterMap_append

theorem expected_cons (op : MetricsOp F) (done : List (MetricsOp F)) :
    expected ops bounds (op :: done) c =
      adds c (program ops bounds op) + expected ops bounds done c := rfl

/-- Accesses that are no additions. -/
theorem adds_eq_zero (hno : ∀ a ∈ actions, ∀ c', a ≠ .add c') : adds c actions = 0 := by
  refine List.countP_eq_zero.mpr fun a ha => ?_
  cases a with
  | add c' => exact absurd rfl (hno _ ha c')
  | loadDrops => exact Bool.false_ne_true
  | loadEvents => exact Bool.false_ne_true
  | storeRate => exact Bool.false_ne_true
  | storeSkew skewMs => exact Bool.false_ne_true
  | loadSum h => exact Bool.false_ne_true
  | casSum h ms => exact Bool.false_ne_true
  | load c' => exact Bool.false_ne_true
  | loadFloat cell => exact Bool.false_ne_true

/-- A scrape adds to no counter. -/
theorem adds_encode : adds c (program ops bounds .encodePrometheus) = 0 := by
  refine adds_eq_zero fun a ha c' heq => ?_
  subst heq
  simp [program, encodeHistogram] at ha

/-- One number of a range is counted once. -/
theorem countP_range_single (n i : Nat) (q : Nat → Bool) :
    (List.range n).countP (fun j => decide (j = i) && q j) =
      if i < n ∧ q i = true then 1 else 0 := by
  induction n with
  | zero => simp
  | succ n ih =>
    rw [List.range_succ, List.countP_append, ih, List.countP_singleton]
    by_cases heq : n = i
    · subst heq
      simp
    · have hlt : i < n + 1 ↔ i < n := by omega
      simp [heq, hlt]

/-- Whether a value is within the bound of a bucket. -/
def within (ops : FloatOps F) (bounds : List F) (ms : F) (i : Nat) : Bool :=
  (bounds[i]?).elim false fun upper => ops.le ms upper

/-- The additions to a bucket by an observation. -/
theorem adds_observe_bucket (h' : Histogram) (ms : F) (i : Nat) :
    adds (.bucket h i) (program ops bounds (.observe h' ms)) =
      if h' = h ∧ within ops bounds ms i = true then 1 else 0 := by
  have hrest : adds (.bucket h i)
      [.add (.count h'), .loadSum h', .casSum h' ms] = 0 := by simp [adds]
  rw [program, observeActions, adds_append, hrest, Nat.add_zero, adds, List.countP_map,
    List.countP_filter]
  by_cases heq : h' = h
  · subst heq
    have hsingle := countP_range_single bounds.length i (within ops bounds ms)
    have hindex : i < bounds.length ∧ within ops bounds ms i = true ↔
        within ops bounds ms i = true := by
      refine ⟨And.right, fun htest => ⟨?_, htest⟩⟩
      by_contra hout
      rw [within, List.getElem?_eq_none (not_lt.mp hout)] at htest
      cases htest
    simp only [hindex, true_and] at hsingle ⊢
    rw [← hsingle]
    congr 1
    funext j
    simp only [Function.comp_apply, Counter.bucket.injEq, true_and]
    rfl
  · simp [heq]

/-- The additions to a count by an observation. -/
theorem adds_observe_count (h' : Histogram) (ms : F) :
    adds (.count h) (program ops bounds (.observe h' ms)) = if h' = h then 1 else 0 := by
  have hbuckets : adds (.count h) (((List.range bounds.length).filter fun i =>
      (bounds[i]?).elim false fun upper => ops.le ms upper).map
        (fun i => MetricsAction.add (F := F) (.bucket h' i))) = 0 := by
    rw [adds, List.countP_map]
    exact List.countP_eq_zero.mpr fun i _ => by simp
  rw [program, observeActions, adds_append, hbuckets, Nat.zero_add]
  by_cases heq : h' = h
  · subst heq
    simp [adds]
  · simp [adds, heq]

/-- The additions to another counter by an observation. -/
theorem adds_observe_other (h' : Histogram) (ms : F) (hbucket : ∀ h i, c ≠ .bucket h i)
    (hcount : ∀ h, c ≠ .count h) : adds c (program ops bounds (.observe h' ms)) = 0 := by
  rw [program, observeActions, adds_append, adds, List.countP_map,
    List.countP_eq_zero.mpr fun i _ => ?_]
  · simp [adds, (hcount h').symm]
  · simp [(hbucket h' i).symm]

/-- **An operation adds to a counter at most once.** -/
theorem adds_program_le (op : MetricsOp F) : adds c (program ops bounds op) ≤ 1 := by
  have hsingle : ∀ c' : Counter, ∀ rest : List (MetricsAction F),
      (∀ a ∈ rest, ∀ c', a ≠ .add c') → adds c (.add c' :: rest) ≤ 1 := by
    intro c' rest hrest
    rw [adds_cons, adds_eq_zero hrest, adds, List.countP_singleton]
    split_ifs <;> decide
  cases op with
  | incSessions result => exact hsingle _ _ fun _ ha => absurd ha List.not_mem_nil
  | incAuthFail => exact hsingle _ _ fun _ ha => absurd ha List.not_mem_nil
  | incInputEvent => exact hsingle _ _ (by simp [refreshInputDropRate])
  | incInputDrop => exact hsingle _ _ (by simp [refreshInputDropRate])
  | setSkewMs skewMs => exact Nat.zero_le 1
  | observe h' ms =>
    by_cases hbucket : ∃ h i, c = .bucket h i
    · obtain ⟨h, i, rfl⟩ := hbucket
      rw [adds_observe_bucket]
      split_ifs <;> decide
    by_cases hcount : ∃ h, c = .count h
    · obtain ⟨h, rfl⟩ := hcount
      rw [adds_observe_count]
      split_ifs <;> decide
    rw [adds_observe_other h' ms (fun h i heq => hbucket ⟨h, i, heq⟩) fun h heq => hcount ⟨h, heq⟩]
    exact Nat.zero_le 1
  | incIcePath path => exact hsingle _ _ fun _ ha => absurd ha List.not_mem_nil
  | encodePrometheus =>
    rw [adds_encode]
    exact Nat.zero_le 1

/-- What an operation is worth to a bucket. -/
theorem adds_bucket (op : MetricsOp F) (i : Nat) :
    adds (.bucket h i) (program ops bounds op) =
      if op.observes h (within ops bounds · i) then 1 else 0 := by
  cases op with
  | observe h' ms =>
    rw [adds_observe_bucket]
    simp [MetricsOp.observes]
  | encodePrometheus => exact adds_encode
  | incSessions result => rfl
  | incAuthFail => rfl
  | incInputEvent => rfl
  | incInputDrop => rfl
  | setSkewMs skewMs => rfl
  | incIcePath path => rfl

/-- What an operation is worth to the number of observations. -/
theorem adds_count (op : MetricsOp F) :
    adds (.count h) (program ops bounds op) = if op.observes h fun _ => true then 1 else 0 := by
  cases op with
  | observe h' ms =>
    rw [adds_observe_count]
    simp [MetricsOp.observes]
  | encodePrometheus => exact adds_encode
  | incSessions result => rfl
  | incAuthFail => rfl
  | incInputEvent => rfl
  | incInputDrop => rfl
  | setSkewMs skewMs => rfl
  | incIcePath path => rfl

/-- A counter that some operations add one to, after a list of operations. -/
theorem expected_eq_countP {test : MetricsOp F → Bool}
    (h : ∀ op, adds c (program ops bounds op) = if test op then 1 else 0)
    (done : List (MetricsOp F)) : expected ops bounds done c = done.countP test := by
  induction done with
  | nil => rfl
  | cons op done ih =>
    rw [expected_cons, ih, h, List.countP_cons, add_comm]

end Worth

/-! ## The invariant -/

section Invariant

variable {F ι : Type} [Fintype ι] (ops : FloatOps F) (bounds : List F)

/-- What of a counter was recorded: all of it by the operations that have returned, and what those
under way have added so far. -/
def MetricsWorld.recorded (w : MetricsWorld F ι) (c : Counter) : Nat :=
  expected ops bounds w.returned c + inFlight (fun th => adds c th.past) w.threads

/-- What of a counter is still to come. -/
def MetricsWorld.toCome (w : MetricsWorld F ι) (c : Counter) : Nat :=
  inFlight (fun th => adds c th.todo) w.threads

/-- Where a thread stands in its operation. -/
def MetricsThread.Follows (th : MetricsThread F) : Prop :=
  match th.op with
  | some op => program ops bounds op = th.past ++ th.todo
  | none => th.past = [] ∧ th.todo = []

/-- What was read of a counter lies between two records. -/
def ReadWithin (before after : List (MetricsOp F)) (read : Counter × UInt64) : Prop :=
  ∃ m, read.2 = UInt64.ofNat m ∧ expected ops bounds before read.1 ≤ m ∧
    m ≤ expected ops bounds after read.1

/-- What a thread found recorded when it began is within what operations have returned. -/
def MetricsThread.FoundWithin (th : MetricsThread F) (returned : List (MetricsOp F)) : Prop :=
  ∀ c, expected ops bounds th.before c ≤ expected ops bounds returned c

/-- What a thread has read lies between what it found recorded and what has begun. -/
def MetricsThread.ReadsWithin (th : MetricsThread F) (begun : List (MetricsOp F)) : Prop :=
  ∀ read ∈ th.counters, ReadWithin ops bounds th.before begun read

/-- The state of the registry at every moment. -/
structure MetricsOk (w : MetricsWorld F ι) : Prop where
  follows : ∀ t, (w.threads t).Follows ops bounds
  begun : ∀ c, expected ops bounds w.begun c = w.recorded ops bounds c + w.toCome c
  counts : ∀ c, w.counts c = UInt64.ofNat (w.recorded ops bounds c)
  sums : ∀ h, w.cells (.sum h) = (w.added h).foldl ops.add ops.zero
  values : ∀ h, (observed ops bounds w.begun h : Multiset F) =
    (w.added h : Multiset F) +
      inFlight (fun th => (sumValues h th.todo : Multiset F)) w.threads
  before : ∀ t, (w.threads t).FoundWithin ops bounds w.returned
  reads : ∀ t, (w.threads t).ReadsWithin ops bounds w.begun
  scrapes : ∀ s ∈ w.scrapes, ∀ read ∈ s.counters, ReadWithin ops bounds s.before s.after read

variable {ops bounds} {w w' : MetricsWorld F ι} {t : ι}

/-- What was recorded was begun. -/
theorem MetricsOk.recorded_le (h : MetricsOk ops bounds w) (c : Counter) :
    w.recorded ops bounds c ≤ expected ops bounds w.begun c := by
  have := h.begun c
  omega

/-- A read stays between two records when the latter grows. -/
theorem ReadWithin.cons {before after : List (MetricsOp F)} {read : Counter × UInt64}
    (h : ReadWithin ops bounds before after read) (op : MetricsOp F) :
    ReadWithin ops bounds before (op :: after) read := by
  obtain ⟨m, hread, hbefore, hafter⟩ := h
  refine ⟨m, hread, hbefore, ?_⟩
  rw [expected_cons]
  omega

/-- A counter that is read is within what the reader found recorded and what has begun. -/
theorem MetricsOk.readWithin (h : MetricsOk ops bounds w) (t : ι) (c : Counter) :
    ReadWithin ops bounds (w.threads t).before w.begun (c, w.counts c) := by
  refine ⟨w.recorded ops bounds c, h.counts c, (h.before t c).trans ?_, h.recorded_le c⟩
  exact Nat.le_add_right _ _

variable [DecidableEq ι]

/-- **An access**: a thread makes its next access, which adds to the counters and the sums what it
is worth, and what the thread reads is within the records. -/
theorem MetricsOk.access (h : MetricsOk ops bounds w) {a : MetricsAction F}
    {todo : List (MetricsAction F)} {x : MetricsThread F} (htodo : (w.threads t).todo = a :: todo)
    (hthreads : w'.threads = Function.update w.threads t x) (hop : x.op = (w.threads t).op)
    (hpast : x.past = (w.threads t).past ++ [a]) (hrest : x.todo = todo)
    (hbefore : x.before = (w.threads t).before)
    (hreads : ∀ read ∈ x.counters,
      read ∈ (w.threads t).counters ∨ ReadWithin ops bounds x.before w.begun read)
    (hbegun : w'.begun = w.begun) (hreturned : w'.returned = w.returned)
    (hscrapes : w'.scrapes = w.scrapes)
    (hcounts : ∀ c, w'.counts c = w.counts c + UInt64.ofNat (adds c [a]))
    (hsums : ∀ k, w'.cells (.sum k) = (w'.added k).foldl ops.add ops.zero)
    (hadded : ∀ k, w'.added k = w.added k ++ sumValues k [a]) : MetricsOk ops bounds w' := by
  have hrecorded (c : Counter) :
      w'.recorded ops bounds c = w.recorded ops bounds c + adds c [a] := by
    rw [MetricsWorld.recorded, hreturned, hthreads, inFlight_gain (d := adds c [a]), ← add_assoc,
      MetricsWorld.recorded]
    rw [hpast, adds_append]
  have htoCome (c : Counter) : w'.toCome c + adds c [a] = w.toCome c := by
    rw [MetricsWorld.toCome, hthreads]
    refine inFlight_loss ?_
    rw [htodo, hrest, adds_cons, add_comm]
  constructor
  case follows =>
    rw [hthreads]
    refine (Function.forall_update_iff _ fun _ => MetricsThread.Follows ops bounds).mpr
      ⟨?_, fun u _ => h.follows u⟩
    have hfollows := h.follows t
    rw [MetricsThread.Follows, hop, hpast, hrest]
    rw [MetricsThread.Follows, htodo] at hfollows
    split at hfollows
    · rw [hfollows, List.append_assoc, List.singleton_append]
    · exact absurd hfollows.2 (List.cons_ne_nil _ _)
  case begun =>
    intro c
    rw [hbegun, h.begun, hrecorded, ← htoCome]
    omega
  case counts =>
    intro c
    rw [hcounts, h.counts, hrecorded, UInt64.ofNat_add]
  case sums => exact hsums
  case values =>
    intro k
    have hloss : inFlight (fun th => (sumValues k th.todo : Multiset F)) w'.threads +
        (sumValues k [a] : Multiset F) =
        inFlight (fun th => (sumValues k th.todo : Multiset F)) w.threads := by
      rw [hthreads]
      refine inFlight_loss ?_
      rw [htodo, hrest, ← List.singleton_append, sumValues_append, ← Multiset.coe_add, add_comm]
    rw [hbegun, h.values, hadded, ← Multiset.coe_add, ← hloss, add_assoc,
      add_comm (inFlight _ _)]
  case before =>
    rw [hthreads, hreturned]
    refine (Function.forall_update_iff _ fun _ (th : MetricsThread F) =>
      th.FoundWithin ops bounds w.returned).mpr ⟨?_, fun u _ => h.before u⟩
    rw [MetricsThread.FoundWithin, hbefore]
    exact h.before t
  case reads =>
    rw [hthreads, hbegun]
    refine (Function.forall_update_iff _ fun _ (th : MetricsThread F) =>
      th.ReadsWithin ops bounds w.begun).mpr ⟨fun read hread => ?_, fun u _ => h.reads u⟩
    rcases hreads read hread with hold | hnew
    · rw [hbefore]
      exact h.reads t read hold
    · exact hnew
  case scrapes =>
    rw [hscrapes]
    exact h.scrapes

/-- A compare-and-swap that fails loads the sum again. -/
theorem MetricsOk.reload (h : MetricsOk ops bounds w) (cur : F) :
    MetricsOk ops bounds
      { w with threads := Function.update w.threads t { w.threads t with cur := cur } } := by
  have hpast (c : Counter) : inFlight (fun th => adds c th.past)
      (Function.update w.threads t { w.threads t with cur := cur }) =
        inFlight (fun th => adds c th.past) w.threads := inFlight_same rfl
  have htodo (c : Counter) : inFlight (fun th => adds c th.todo)
      (Function.update w.threads t { w.threads t with cur := cur }) =
        inFlight (fun th => adds c th.todo) w.threads := inFlight_same rfl
  constructor
  case follows =>
    exact (Function.forall_update_iff _ fun _ => MetricsThread.Follows ops bounds).mpr
      ⟨h.follows t, fun u _ => h.follows u⟩
  case begun =>
    intro c
    rw [MetricsWorld.recorded, MetricsWorld.toCome, hpast, htodo]
    exact h.begun c
  case counts =>
    intro c
    rw [MetricsWorld.recorded, hpast]
    exact h.counts c
  case sums => exact h.sums
  case values =>
    intro k
    have hvalues : inFlight (fun th => (sumValues k th.todo : Multiset F))
        (Function.update w.threads t { w.threads t with cur := cur }) =
          inFlight (fun th => (sumValues k th.todo : Multiset F)) w.threads := inFlight_same rfl
    rw [hvalues]
    exact h.values k
  case before =>
    exact (Function.forall_update_iff _ fun _ (th : MetricsThread F) =>
      th.FoundWithin ops bounds w.returned).mpr ⟨h.before t, fun u _ => h.before u⟩
  case reads =>
    exact (Function.forall_update_iff _ fun _ (th : MetricsThread F) =>
      th.ReadsWithin ops bounds w.begun).mpr ⟨h.reads t, fun u _ => h.reads u⟩
  case scrapes => exact h.scrapes

/-- A thread begins an operation. -/
theorem MetricsOk.begin (h : MetricsOk ops bounds w) (hidle : (w.threads t).op = none)
    (op : MetricsOp F) :
    MetricsOk ops bounds { w with
      threads := Function.update w.threads t (.start ops bounds op w.returned)
      begun := op :: w.begun } := by
  have hempty : (w.threads t).past = [] ∧ (w.threads t).todo = [] := by
    have hfollows := h.follows t
    rwa [MetricsThread.Follows, hidle] at hfollows
  have hpast (c : Counter) : inFlight (fun th => adds c th.past)
      (Function.update w.threads t (.start ops bounds op w.returned)) =
      inFlight (fun th => adds c th.past) w.threads := by
    refine inFlight_same ?_
    rw [hempty.1]
    rfl
  have htodo (c : Counter) : inFlight (fun th => adds c th.todo)
      (Function.update w.threads t (.start ops bounds op w.returned)) =
      inFlight (fun th => adds c th.todo) w.threads + adds c (program ops bounds op) := by
    refine inFlight_gain ?_
    rw [hempty.2, add_comm]
    rfl
  constructor
  case follows =>
    exact (Function.forall_update_iff _ fun _ => MetricsThread.Follows ops bounds).mpr
      ⟨(List.nil_append _).symm, fun u _ => h.follows u⟩
  case begun =>
    intro c
    have hbegun := h.begun c
    simp only [MetricsWorld.recorded, MetricsWorld.toCome] at hbegun ⊢
    rw [expected_cons, hpast, htodo, hbegun]
    omega
  case counts =>
    intro c
    rw [MetricsWorld.recorded, hpast]
    exact h.counts c
  case sums => exact h.sums
  case values =>
    intro k
    have hvalues : inFlight (fun th => (sumValues k th.todo : Multiset F))
        (Function.update w.threads t (.start ops bounds op w.returned)) =
        inFlight (fun th => (sumValues k th.todo : Multiset F)) w.threads +
          (sumValues k (program ops bounds op) : Multiset F) := by
      refine inFlight_gain ?_
      rw [hempty.2]
      exact (zero_add _).symm
    rw [hvalues, observed, List.flatMap_cons, ← Multiset.coe_add, add_comm, ← add_assoc]
    congr 1
    exact h.values k
  case before =>
    exact (Function.forall_update_iff _ fun _ (th : MetricsThread F) =>
      th.FoundWithin ops bounds w.returned).mpr ⟨fun c => le_rfl, fun u _ => h.before u⟩
  case reads =>
    exact (Function.forall_update_iff _ fun _ (th : MetricsThread F) =>
      th.ReadsWithin ops bounds (op :: w.begun)).mpr
      ⟨fun read hread => absurd hread List.not_mem_nil,
        fun u _ read hread => (h.reads u read hread).cons op⟩
  case scrapes => exact h.scrapes

/-- A thread returns from its operation. -/
theorem MetricsOk.return (h : MetricsOk ops bounds w) {op : MetricsOp F}
    (hop : (w.threads t).op = some op) (hdone : (w.threads t).todo = []) {scrapes : List (Scrape F)}
    (hscrapes : ∀ s ∈ scrapes, s = ⟨(w.threads t).counters, (w.threads t).floats,
      (w.threads t).before, w.begun⟩) :
    MetricsOk ops bounds { w with
      threads := Function.update w.threads t (.idle ops.zero)
      returned := op :: w.returned
      scrapes := w.scrapes ++ scrapes } := by
  have hprogram : (w.threads t).past = program ops bounds op := by
    have hfollows := h.follows t
    rw [MetricsThread.Follows, hop, hdone, List.append_nil] at hfollows
    exact hfollows.symm
  have hpast (c : Counter) : inFlight (fun th => adds c th.past)
      (Function.update w.threads t (.idle ops.zero)) + adds c (program ops bounds op) =
      inFlight (fun th => adds c th.past) w.threads := by
    refine inFlight_loss ?_
    rw [hprogram]
    exact (Nat.zero_add _).symm
  have htodo (c : Counter) : inFlight (fun th => adds c th.todo)
      (Function.update w.threads t (.idle ops.zero)) =
      inFlight (fun th => adds c th.todo) w.threads := by
    refine inFlight_same ?_
    rw [hdone]
    rfl
  constructor
  case follows =>
    exact (Function.forall_update_iff _ fun _ => MetricsThread.Follows ops bounds).mpr
      ⟨⟨rfl, rfl⟩, fun u _ => h.follows u⟩
  case begun =>
    intro c
    have hbegun := h.begun c
    simp only [MetricsWorld.recorded, MetricsWorld.toCome] at hbegun ⊢
    rw [expected_cons, htodo, hbegun, ← hpast c]
    omega
  case counts =>
    intro c
    rw [h.counts c]
    congr 1
    simp only [MetricsWorld.recorded]
    rw [expected_cons, ← hpast c]
    omega
  case sums => exact h.sums
  case values =>
    intro k
    have hvalues : inFlight (fun th => (sumValues k th.todo : Multiset F))
        (Function.update w.threads t (.idle ops.zero)) =
        inFlight (fun th => (sumValues k th.todo : Multiset F)) w.threads := by
      refine inFlight_same ?_
      rw [hdone]
      rfl
    rw [hvalues]
    exact h.values k
  case before =>
    exact (Function.forall_update_iff _ fun _ (th : MetricsThread F) =>
      th.FoundWithin ops bounds (op :: w.returned)).mpr
      ⟨fun c => Nat.zero_le _, fun u _ c => (h.before u c).trans (Nat.le_add_left _ _)⟩
  case reads =>
    exact (Function.forall_update_iff _ fun _ (th : MetricsThread F) =>
      th.ReadsWithin ops bounds w.begun).mpr
      ⟨fun read hread => absurd hread List.not_mem_nil, fun u _ => h.reads u⟩
  case scrapes =>
    intro s hs
    rcases List.mem_append.mp hs with hold | hnew
    · exact h.scrapes s hold
    · rw [hscrapes s hnew]
      exact h.reads t

/-- The next access of a thread. -/
theorem MetricsOk.act [DecidableEq F] (h : MetricsOk ops bounds w) {a : MetricsAction F}
    {todo : List (MetricsAction F)} (htodo : (w.threads t).todo = a :: todo) (spurious : Bool) :
    MetricsOk ops bounds (w.act ops t spurious a todo) := by
  have hnone (c : Counter) (hadds : adds c [a] = 0) :
      w.counts c = w.counts c + UInt64.ofNat (adds c [a]) := by
    rw [hadds]
    exact (UInt64.add_zero _).symm
  cases a with
  | add c =>
    refine h.access htodo rfl rfl rfl rfl rfl (fun read hread => .inl hread) rfl rfl rfl
      (fun c' => ?_) h.sums fun k => (List.append_nil _).symm
    by_cases hc : c' = c
    · subst hc
      simp [MetricsWorld.act, adds]
    · have hne : adds c' [MetricsAction.add (F := F) c] = 0 := by simp [adds, Ne.symm hc]
      rw [← hnone c' hne]
      exact Function.update_of_ne hc _ _
  | loadDrops =>
    exact h.access htodo rfl rfl rfl rfl rfl (fun read hread => .inl hread) rfl rfl rfl
      (fun c' => hnone c' rfl) h.sums fun k => (List.append_nil _).symm
  | loadEvents =>
    exact h.access htodo rfl rfl rfl rfl rfl (fun read hread => .inl hread) rfl rfl rfl
      (fun c' => hnone c' rfl) h.sums fun k => (List.append_nil _).symm
  | storeRate =>
    refine h.access htodo rfl rfl rfl rfl rfl (fun read hread => .inl hread) rfl rfl rfl
      (fun c' => hnone c' rfl) (fun k => ?_) fun k => (List.append_nil _).symm
    have hcell : FloatCell.sum k ≠ .inputDropRate := nofun
    dsimp only [MetricsWorld.act]
    rw [Function.update_of_ne hcell]
    exact h.sums k
  | storeSkew skewMs =>
    refine h.access htodo rfl rfl rfl rfl rfl (fun read hread => .inl hread) rfl rfl rfl
      (fun c' => hnone c' rfl) (fun k => ?_) fun k => (List.append_nil _).symm
    have hcell : FloatCell.sum k ≠ .skewMs := nofun
    dsimp only [MetricsWorld.act]
    rw [Function.update_of_ne hcell]
    exact h.sums k
  | loadSum k =>
    exact h.access htodo rfl rfl rfl rfl rfl (fun read hread => .inl hread) rfl rfl rfl
      (fun c' => hnone c' rfl) h.sums fun k => (List.append_nil _).symm
  | casSum k ms =>
    by_cases hswap : w.cells (.sum k) = ((w.threads t).advance (.casSum k ms) todo).cur ∧
        spurious = false
    · rw [MetricsWorld.act, if_pos hswap]
      refine h.access htodo rfl rfl rfl rfl rfl (fun read hread => .inl hread) rfl rfl rfl
        (fun c' => hnone c' rfl) (fun k' => ?_) fun k' => ?_
      · by_cases hk : k' = k
        · subst hk
          dsimp only
          rw [Function.update_self, Function.update_self, List.foldl_append, ← h.sums k', hswap.1]
          rfl
        · dsimp only
          rw [Function.update_of_ne hk, Function.update_of_ne (by simpa using hk)]
          exact h.sums k'
      · by_cases hk : k' = k
        · subst hk
          simp [sumValues]
        · simp [sumValues, hk, Ne.symm hk]
    · rw [MetricsWorld.act, if_neg hswap]
      exact h.reload _
  | load c =>
    refine h.access htodo rfl rfl rfl rfl rfl (fun read hread => ?_) rfl rfl rfl
      (fun c' => hnone c' rfl) h.sums fun k => (List.append_nil _).symm
    rcases List.mem_append.mp hread with hold | hnew
    · exact .inl hold
    · rw [List.mem_singleton.mp hnew]
      exact .inr (h.readWithin t c)
  | loadFloat cell =>
    exact h.access htodo rfl rfl rfl rfl rfl (fun read hread => .inl hread) rfl rfl rfl
      (fun c' => hnone c' rfl) h.sums fun k => (List.append_nil _).symm

end Invariant

/-! ## Runs -/

section Runs

variable {F ι : Type} [DecidableEq F] [Fintype ι] [DecidableEq ι] {ops : FloatOps F}
  {bounds : List F} {w w' : MetricsWorld F ι}

theorem metricsOk_init {w : MetricsWorld F ι} (hinit : (metricsSystem ops bounds).init w) :
    MetricsOk ops bounds w := by
  rw [hinit]
  have hpast (c : Counter) : inFlight (fun th : MetricsThread F => adds c th.past)
      (fun _ : ι => .idle ops.zero) = 0 := inFlight_eq_zero fun _ => rfl
  have htodo (c : Counter) : inFlight (fun th : MetricsThread F => adds c th.todo)
      (fun _ : ι => .idle ops.zero) = 0 := inFlight_eq_zero fun _ => rfl
  constructor
  case follows => exact fun _ => ⟨rfl, rfl⟩
  case begun =>
    intro c
    rw [MetricsWorld.recorded, MetricsWorld.toCome, hpast, htodo]
    rfl
  case counts =>
    intro c
    rw [MetricsWorld.recorded, hpast]
    rfl
  case sums => exact fun _ => rfl
  case values =>
    intro k
    have hvalues : inFlight (fun th : MetricsThread F => (sumValues k th.todo : Multiset F))
        (fun _ : ι => .idle ops.zero) = 0 := inFlight_eq_zero fun _ => rfl
    rw [hvalues]
    rfl
  case before => exact fun _ _ => le_rfl
  case reads => exact fun _ read hread => absurd hread List.not_mem_nil
  case scrapes => exact fun s hs => absurd hs List.not_mem_nil

/-- Every step keeps the invariant. -/
theorem MetricsOk.step (h : MetricsOk ops bounds w) {e : MetricsStep F ι}
    (hstep : (metricsSystem ops bounds).step w e = some w') : MetricsOk ops bounds w' := by
  cases e with
  | begin t op =>
    simp only [metricsSystem] at hstep
    split at hstep
    · cases hstep
    · next hop =>
      cases hstep
      exact h.begin hop op
  | act t spurious =>
    simp only [metricsSystem] at hstep
    split at hstep
    · cases hstep
    · next a todo htodo =>
      cases hstep
      exact h.act htodo spurious
  | «return» t =>
    simp only [metricsSystem] at hstep
    split at hstep
    · next op hop hdone =>
      cases hstep
      refine h.return hop hdone fun s hs => ?_
      split at hs
      · exact List.mem_singleton.mp hs
      · exact absurd hs List.not_mem_nil
    · cases hstep

theorem metricsOk_of_reachable (hw : (metricsSystem ops bounds).Reachable w) :
    MetricsOk ops bounds w :=
  hw.invariant _ (fun _ => metricsOk_init) fun _ _ _ h _ hstep => h.step hstep

omit [DecidableEq F] [DecidableEq ι] in
/-- At most one addition to a counter is to come from each thread that is in an operation. -/
theorem MetricsOk.toCome_le (h : MetricsOk ops bounds w) (c : Counter) :
    w.toCome c ≤ (Finset.univ.filter fun t => (w.threads t).op.isSome = true).card := by
  refine inFlight_le_busy (fun t => ?_) fun t hidle => ?_
  · have hfollows := h.follows t
    rw [MetricsThread.Follows] at hfollows
    split at hfollows
    · next op hop =>
      have hle : adds c (program ops bounds op) ≤ 1 := adds_program_le op
      rw [hfollows, adds_append] at hle
      omega
    · rw [hfollows.2]
      exact Nat.zero_le 1
  · have hfollows := h.follows t
    rw [MetricsThread.Follows, Option.not_isSome_iff_eq_none.mp hidle] at hfollows
    rw [hfollows.2]
    rfl

/-- No thread is in an operation. -/
def MetricsWorld.AtRest (w : MetricsWorld F ι) : Prop := ∀ t, (w.threads t).op = none

/-- **No update is lost**: whatever the interleaving, a counter holds all that the operations that
have returned are worth, and lags behind those that have begun by one for each thread under way at
most. At rest a bucket holds the observations within its bound, the count holds all of them, and the
sum adds up the observed values, each once, in some order. What a scrape reads of a counter lies
between what had been recorded when it began and what had begun when it ended. -/
theorem metrics_no_lost_update (hw : (metricsSystem ops bounds).Reachable w) :
    (∀ c, ∃ m, w.counts c = UInt64.ofNat m ∧ expected ops bounds w.returned c ≤ m ∧
      m ≤ expected ops bounds w.begun c ∧ expected ops bounds w.begun c ≤
        m + (Finset.univ.filter fun t => (w.threads t).op.isSome = true).card) ∧
    (w.AtRest → (∀ c, w.counts c = UInt64.ofNat (expected ops bounds w.begun c)) ∧
      ∀ h,
        (∀ i, w.counts (.bucket h i) = UInt64.ofNat (w.begun.countP
          (MetricsOp.observes h fun ms => within ops bounds ms i))) ∧
        w.counts (.count h) = UInt64.ofNat (w.begun.countP (MetricsOp.observes h fun _ => true)) ∧
        ∃ values : List F, values.Perm (observed ops bounds w.begun h) ∧
          w.cells (.sum h) = values.foldl ops.add ops.zero) ∧
    ∀ s ∈ w.scrapes, ∀ read ∈ s.counters, ReadWithin ops bounds s.before s.after read := by
  have h := metricsOk_of_reachable hw
  refine ⟨fun c => ⟨w.recorded ops bounds c, h.counts c, Nat.le_add_right _ _, h.recorded_le c, ?_⟩,
    fun hrest => ?_, h.scrapes⟩
  · rw [h.begun]
    exact Nat.add_le_add_left (h.toCome_le c) _
  have hdone (t : ι) : (w.threads t).past = [] ∧ (w.threads t).todo = [] := by
    have hfollows := h.follows t
    rwa [MetricsThread.Follows, hrest t] at hfollows
  have hcounts (c : Counter) : w.counts c = UInt64.ofNat (expected ops bounds w.begun c) := by
    have htodo : w.toCome c = 0 := inFlight_eq_zero fun t => by rw [(hdone t).2]; rfl
    rw [h.counts, h.begun, htodo, Nat.add_zero]
  refine ⟨hcounts, fun k => ⟨fun i => ?_, ?_, w.added k, ?_, h.sums k⟩⟩
  · rw [hcounts, expected_eq_countP fun op => adds_bucket op i]
  · rw [hcounts, expected_eq_countP adds_count]
  · have hvalues : inFlight (fun th => (sumValues k th.todo : Multiset F)) w.threads = 0 :=
      inFlight_eq_zero fun t => by rw [(hdone t).2]; rfl
    have hperm := h.values k
    rw [hvalues, add_zero] at hperm
    exact (Multiset.coe_eq_coe.mp hperm).symm

end Runs

/-- Whole numbers in the place of floating-point numbers. -/
def wholeOps : FloatOps Nat :=
  ⟨0, UInt64.toNat, (· + ·), (· / ·), fun a b => decide (a < b), fun a b => decide (a ≤ b)⟩

/-- Two observations whose compare-and-swaps get into each other's way, and a scrape before the
second is added to the sum. -/
def observedRun : List (MetricsStep Nat (Fin 2)) :=
  [.begin 0 (.observe .glassToGlassMs 4), .begin 1 (.observe .glassToGlassMs 7)] ++
    List.replicate 4 (.act 0 false) ++ List.replicate 4 (.act 1 false) ++
    [.act 0 false, .return 1, .begin 1 .encodePrometheus] ++ List.replicate 19 (.act 1 false) ++
    [.act 0 true, .return 1, .act 0 false, .return 0]

/-- In that run the scrape finds both observations but only one in the sum, and at rest nothing is
missing. -/
theorem metrics_no_lost_update_observedRun : ∃ w : MetricsWorld Nat (Fin 2),
    (metricsSystem wholeOps [5, 10]).runFrom
      ⟨fun _ => 0, fun _ => 0, fun _ => .idle 0, [], [], fun _ => [], []⟩ observedRun = some w ∧
    w.cells (.sum .glassToGlassMs) = 11 ∧ w.AtRest ∧
    (∃ s ∈ w.scrapes, (Counter.bucket .glassToGlassMs 1, 2) ∈ s.counters ∧
      (FloatCell.sum .glassToGlassMs, 7) ∈ s.floats) ∧
    w.counts (.bucket .glassToGlassMs 0) = UInt64.ofNat (w.begun.countP
      (MetricsOp.observes .glassToGlassMs fun ms => within wholeOps [5, 10] ms 0)) := by
  have hrun : ((metricsSystem wholeOps [5, 10]).runFrom
      ⟨fun _ => 0, fun _ => 0, fun _ => .idle 0, [], [], fun _ => [], []⟩ observedRun).any
        (fun w => decide (w.cells (.sum .glassToGlassMs) = 11 ∧
          (∀ t, (w.threads t).op.isSome = false) ∧
          ∃ s ∈ w.scrapes, (Counter.bucket .glassToGlassMs 1, 2) ∈ s.counters ∧
            (FloatCell.sum .glassToGlassMs, 7) ∈ s.floats)) = true := by
    decide +kernel
  obtain ⟨w, hw, hdone⟩ := (Option.any_eq_true _ _).mp hrun
  obtain ⟨hsum, hrest, hscrape⟩ := of_decide_eq_true hdone
  have hatRest : w.AtRest := fun t => by simpa using hrest t
  exact ⟨w, hw, hsum, hatRest, hscrape,
    (((metrics_no_lost_update (System.reachable_of_runFrom (.init rfl) hw)).2.1 hatRest).2
      .glassToGlassMs).1 0⟩

end RemoteLink.Common
