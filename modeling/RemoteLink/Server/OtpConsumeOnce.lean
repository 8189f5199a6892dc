import RemoteLink.Server.WsInvariant

set_option autoImplicit false

/-!
# One accepted session for each OTP row

An intent that passed the prefilter against a row relies on that row until its session is
accepted and the row consumed. The prefilter binds a row to the last intent that passed, before
the registry says whether that intent gets a session, and the accept ignores whether a row was
consumed. So the row authorizes one session only while nothing disturbs it in between.

## Main definitions

* `Holds` — an intent in flight relies on a row.
* `ConsumedOnce` — every accept consumes the row its session's intent passed against, and no row
  is behind two accepts.
* `Undisturbed` — a step leaves the rows of intents in flight alone.

## Main results

* `otp_consumed_once` — in every run of undisturbed steps rows are consumed once.
* `otp_consumed_once_fails` — a second viewer with the same code breaks it.
-/

namespace RemoteLink.Server

open RemoteLink.Library RemoteLink.Protocol RemoteLink.Auth

/-! ## The property -/

/-- A task is about to consume the row `id` for the session it accepted. -/
def BeingConsumed (w : WsWorld) (id : Nat) (sid : String) : Prop :=
  ∃ conn t c, w.tasks.lookup conn = some t ∧ t.stage = .consuming sid (some c) ∧ c.row.id = id

/-- Every accepted session whose intent passed against a row has that row consumed by its accept,
or its accept is still being handled; and no row is behind two accepted sessions. -/
def ConsumedOnce (w : WsWorld) : Prop :=
  (∀ id sid, (id, sid) ∈ w.accepted → (id, sid) ∈ w.consumed ∨ BeingConsumed w id sid) ∧
    (w.accepted.map Prod.fst).Nodup

/-! ## Intents in flight -/

/-- What relies on a row: a task between its prefilter and its create, or between its accept and
its consume; or a pending session. -/
inductive Holder where
  | task (conn : ConnId)
  | session (sid : String)
  deriving DecidableEq

/-- An intent for session `sid` on device `dev`, which passed the check `c`, is in flight. -/
def Holds (cfg : ServerConfig) (w : WsWorld) : Holder → Checked → String → Int → Prop
  | .task conn, c, sid, dev => ∃ t, w.tasks.lookup conn = some t ∧
    ((∃ intent device, t.stage = .creating intent device (some c) ∧ intent.sessionId = sid ∧
        device.id = dev) ∨
      t.stage = .consuming sid (some c) ∧ ∃ id, t.identity = some id ∧ id.deviceId = some dev)
  | .session s, c, sid, dev => s = sid ∧ ∃ x, w.registry.sessions.lookup sid = some x ∧
    x.state = .pending ∧ w.checkedOf sid = some c ∧ cfg.deviceId x.hostPublicId = dev

/-- The check of an intent that a task has in hand. -/
def Stage.checked : Stage → Option Checked
  | .creating _ _ checked | .consuming _ checked => checked
  | _ => none

/-- The step leaves the rows of intents in flight alone: no other intent passes the prefilter
against such a row, the host does not replace it, it has not expired when it is to be consumed,
and an accept of a session that did not pass does not find it bound to that session's id. -/
def Undisturbed (cfg : ServerConfig) (w : WsWorld) : WsEvent → Prop
  | .proceed conn ans => ∀ t, w.tasks.lookup conn = some t → match t.stage with
    | .prefiltering _ device code now => ∀ id row,
      w.otp.prefilterRow now (w.otp.idsOf device.id).reverse = some (id, row) →
      row.attempts < maxOtpAttempts → Time.timestamp now < Time.timestamp row.expiresAt →
      verifyOtp cfg.crypto code cfg.otpPepper row.hash = .ok () →
      ∀ h c sid dev, Holds cfg w h c sid dev → c.row.id ≠ id
    | .consuming _ (some c) => ∀ row, w.otp.byId.lookup c.row.id = some row →
      ans.now < row.expiresAt
    | .consuming sid none => ∀ identity dev h c, t.identity = some identity →
      identity.deviceId = some dev → ¬Holds cfg w h c sid dev
    | _ => True
  | .mintOtp host _ _ _ => ∀ h c sid, ¬Holds cfg w h c sid host
  | _ => True

/-! ## The invariant -/

/-- Rows in flight are stored, unconsumed and bound to the session of their only holder; accepted
rows are consumed or about to be. -/
structure Once (cfg : ServerConfig) (w : WsWorld) : Prop where
  held : ∀ h c sid dev, Holds cfg w h c sid dev → ∃ row,
    w.otp.byId.lookup c.row.id = some row ∧ row.consumedAt = none ∧
      row.sessionIntentId = some sid ∧ row.hostDeviceId = dev
  exclusive : ∀ h c sid dev h' c' sid' dev', Holds cfg w h c sid dev →
    Holds cfg w h' c' sid' dev' → c.row.id = c'.row.id → h = h'
  device : ∀ conn t sid c, w.tasks.lookup conn = some t → t.stage = .consuming sid (some c) →
    ∃ identity dev, t.identity = some identity ∧ identity.deviceId = some dev
  accepted : ∀ id sid, (id, sid) ∈ w.accepted → id ≤ w.otp.nextId ∧ (BeingConsumed w id sid ∨
    (id, sid) ∈ w.consumed ∧ ∀ row, w.otp.byId.lookup id = some row → row.consumedAt ≠ none)
  nodup : (w.accepted.map Prod.fst).Nodup

namespace Once

variable {cfg : ServerConfig} {w w' : WsWorld}

theorem empty : Once cfg .empty where
  held h c sid dev hh := by
    rcases h with conn | s
    · obtain ⟨t, ht, -⟩ := hh
      simp [WsWorld.empty] at ht
    · obtain ⟨-, x, hx, -⟩ := hh
      simp [WsWorld.empty, RegistryInner.empty] at hx
  exclusive h c sid dev h' c' sid' dev' hh := by
    rcases h with conn | s
    · obtain ⟨t, ht, -⟩ := hh
      simp [WsWorld.empty] at ht
    · obtain ⟨-, x, hx, -⟩ := hh
      simp [WsWorld.empty, RegistryInner.empty] at hx
  device conn t sid c ht := by simp [WsWorld.empty] at ht
  accepted id sid hm := by simp [WsWorld.empty] at hm
  nodup := List.nodup_nil

theorem consumedOnce (h : Once cfg w) : ConsumedOnce w := by
  refine ⟨fun id sid hm => ?_, h.nodup⟩
  rcases (h.accepted id sid hm).2 with hb | ⟨hc, -⟩
  · exact .inr hb
  · exact .inl hc

/-- A task that is about to consume holds the row. -/
theorem holds_consuming (h : Once cfg w) {conn : ConnId} {t : ConnTask} {sid : String}
    {c : Checked} (ht : w.tasks.lookup conn = some t) (hs : t.stage = .consuming sid (some c)) :
    ∃ dev, Holds cfg w (.task conn) c sid dev := by
  obtain ⟨identity, dev, hid, hdev⟩ := h.device conn t sid c ht hs
  exact ⟨dev, t, ht, .inr ⟨hs, identity, hid, hdev⟩⟩

/-- The row of an intent that is not yet accepted is behind no accept. -/
theorem not_accepted (h : Once cfg w) {hd : Holder} {c : Checked} {sid : String} {dev : Int}
    (hh : Holds cfg w hd c sid dev)
    (hnot : ∀ conn t, hd = .task conn → w.tasks.lookup conn = some t →
      ∀ sid c, t.stage ≠ .consuming sid (some c)) (sid' : String) :
    (c.row.id, sid') ∉ w.accepted := by
  intro hm
  rcases (h.accepted _ _ hm).2 with ⟨conn, t, c', ht, hs, hid⟩ | ⟨-, hrow⟩
  · obtain ⟨dev', hh'⟩ := h.holds_consuming ht hs
    exact hnot conn t (h.exclusive _ _ _ _ _ _ _ _ hh hh' hid.symm) ht sid' c' hs
  · obtain ⟨row, hlook, hnone, -⟩ := h.held _ _ _ _ hh
    exact hrow row hlook hnone

/-! ## Steps that leave the rows in flight alone -/

/-- What most steps do: holders only disappear or move, each keeps its row, and consuming tasks
go on. `back` leads a holder after the step to the holder before it. -/
structure Quiet (cfg : ServerConfig) (w w' : WsWorld) (back : Holder → Holder) : Prop where
  holds : ∀ h c sid dev, Holds cfg w' h c sid dev → Holds cfg w (back h) c sid dev
  injective : ∀ h c sid dev h' c' sid' dev', Holds cfg w' h c sid dev →
    Holds cfg w' h' c' sid' dev' → back h = back h' → h = h'
  rows : ∀ h c sid dev, Holds cfg w' h c sid dev → ∀ row,
    w.otp.byId.lookup c.row.id = some row → ∃ row', w'.otp.byId.lookup c.row.id = some row' ∧
      row'.consumedAt = row.consumedAt ∧ row'.sessionIntentId = row.sessionIntentId ∧
      row'.hostDeviceId = row.hostDeviceId
  spent : ∀ id row', id ≤ w.otp.nextId → w'.otp.byId.lookup id = some row' →
    ∃ row, w.otp.byId.lookup id = some row ∧ (row.consumedAt ≠ none → row'.consumedAt ≠ none)
  nextId : w.otp.nextId ≤ w'.otp.nextId
  device : ∀ conn t sid c, w'.tasks.lookup conn = some t → t.stage = .consuming sid (some c) →
    ∃ identity dev, t.identity = some identity ∧ identity.deviceId = some dev
  consuming : ∀ id sid, BeingConsumed w id sid → BeingConsumed w' id sid
  accepted : w'.accepted = w.accepted
  consumed : ∀ p, p ∈ w.consumed → p ∈ w'.consumed

theorem quiet (h : Once cfg w) (back : Holder → Holder) (hq : Quiet cfg w w' back) :
    Once cfg w' where
  held hd c sid dev hh := by
    obtain ⟨row, hrow, hnone, hbound, hhost⟩ := h.held _ _ _ _ (hq.holds _ _ _ _ hh)
    obtain ⟨row', hrow', hc, hs, hd⟩ := hq.rows _ _ _ _ hh row hrow
    exact ⟨row', hrow', hc.trans hnone, hs.trans hbound, hd.trans hhost⟩
  exclusive hd c sid dev hd' c' sid' dev' hh hh' hid :=
    hq.injective _ _ _ _ _ _ _ _ hh hh'
      (h.exclusive _ _ _ _ _ _ _ _ (hq.holds _ _ _ _ hh) (hq.holds _ _ _ _ hh') hid)
  device := hq.device
  accepted id sid hm := by
    rw [hq.accepted] at hm
    obtain ⟨hle, hor⟩ := h.accepted id sid hm
    refine ⟨le_trans hle hq.nextId, ?_⟩
    rcases hor with hb | ⟨hc, hrow⟩
    · exact .inl (hq.consuming id sid hb)
    · refine .inr ⟨hq.consumed _ hc, fun row' hrow' => ?_⟩
      obtain ⟨row, hlook, himp⟩ := hq.spent id row' hle hrow'
      exact himp (hrow row hlook)
  nodup := by
    rw [hq.accepted]
    exact h.nodup

/-- Two stores that differ in nothing but counted attempts. -/
def SameRows (s s' : OtpStore) : Prop :=
  s'.nextId = s.nextId ∧ ∀ id,
    (s'.byId.lookup id).map (fun r => (r.consumedAt, r.sessionIntentId, r.hostDeviceId)) =
      (s.byId.lookup id).map fun r => (r.consumedAt, r.sessionIntentId, r.hostDeviceId)

theorem SameRows.refl (s : OtpStore) : SameRows s s := ⟨rfl, fun _ => rfl⟩

theorem SameRows.insert {s : OtpStore} {id : Nat} {row row' : StoredOtp}
    (hrow : s.byId.lookup id = some row) (hc : row'.consumedAt = row.consumedAt)
    (hs : row'.sessionIntentId = row.sessionIntentId)
    (hd : row'.hostDeviceId = row.hostDeviceId) :
    SameRows s { s with byId := s.byId.insert id row' } := by
  refine ⟨rfl, fun k => ?_⟩
  dsimp only
  rw [HashMap.lookup_insert_if]
  split_ifs with hk
  · subst hk
    simp [hrow, hc, hs, hd]
  · rfl

theorem SameRows.forward {s s' : OtpStore} (h : SameRows s s') {id : Nat} {row : StoredOtp}
    (hrow : s.byId.lookup id = some row) : ∃ row', s'.byId.lookup id = some row' ∧
      row'.consumedAt = row.consumedAt ∧ row'.sessionIntentId = row.sessionIntentId ∧
      row'.hostDeviceId = row.hostDeviceId := by
  have hid := h.2 id
  rw [hrow, Option.map_some, Option.map_eq_some_iff] at hid
  obtain ⟨row', hrow', heq⟩ := hid
  obtain ⟨hc, hrest⟩ := Prod.mk.inj heq
  obtain ⟨hs, hd⟩ := Prod.mk.inj hrest
  exact ⟨row', hrow', hc, hs, hd⟩

theorem SameRows.backward {s s' : OtpStore} (h : SameRows s s') {id : Nat} {row' : StoredOtp}
    (hrow' : s'.byId.lookup id = some row') :
    ∃ row, s.byId.lookup id = some row ∧ row'.consumedAt = row.consumedAt := by
  have hid := h.2 id
  rw [hrow', Option.map_some, eq_comm, Option.map_eq_some_iff] at hid
  obtain ⟨row, hrow, heq⟩ := hid
  exact ⟨row, hrow, (Prod.mk.inj heq).1.symm⟩

/-- Pending sessions after the step were pending before, for the same host. -/
def PendingFrom (w w' : WsWorld) : Prop :=
  ∀ sid x', w'.registry.sessions.lookup sid = some x' → x'.state = .pending →
    ∃ x, w.registry.sessions.lookup sid = some x ∧ x.state = .pending ∧
      x.hostPublicId = x'.hostPublicId

theorem PendingFrom.refl (hreg : w'.registry = w.registry) : PendingFrom w w' := by
  intro sid x' hx hp
  rw [hreg] at hx
  exact ⟨x', hx, hp, rfl⟩

theorem PendingFrom.perform (ttls : Ttls) (e : RegistryEvent)
    (he : ∀ req now, e ≠ .createPendingSession req now)
    (hreg : w'.registry = (e.perform ttls w.registry).2) : PendingFrom w w' := by
  intro sid x' hx hp
  rw [hreg] at hx
  rcases RegistryEvent.pending_origin hx hp with ⟨req, now, -, -, heq, -⟩ | hold
  · exact absurd heq (he req now)
  · exact hold

/-- A task changes to a stage without a row in hand, and it was not about to consume one. -/
def TaskFrom (w w' : WsWorld) : Prop :=
  (∀ c t', w'.tasks.lookup c = some t' → w.tasks.lookup c = some t' ∨ t'.stage.checked = none) ∧
  ∀ c t sid ch, w.tasks.lookup c = some t → t.stage = .consuming sid (some ch) →
    w'.tasks.lookup c = some t

theorem TaskFrom.refl (ht : w'.tasks = w.tasks) : TaskFrom w w' := by
  refine ⟨fun c t' h => .inl ?_, fun c t sid ch h _ => ?_⟩
  · rwa [ht] at h
  · rwa [ht]

theorem TaskFrom.goto {conn : ConnId} {t : ConnTask} (t' : ConnTask)
    (ht : w.tasks.lookup conn = some t) (hold : ∀ sid c, t.stage ≠ .consuming sid (some c))
    (hnew : t'.stage.checked = none)
    (hw' : w'.tasks = w.tasks.insert conn t') : TaskFrom w w' := by
  constructor
  · intro c u hu
    rw [hw', HashMap.lookup_insert_if] at hu
    split_ifs at hu
    · obtain rfl := Option.some.inj hu
      exact .inr hnew
    · exact .inl hu
  · intro c u sid ch hu hs
    have hne : c ≠ conn := by
      rintro rfl
      rw [ht] at hu
      obtain rfl := Option.some.inj hu
      exact hold sid ch hs
    rw [hw', AList.lookup_insert_ne hne]
    exact hu

/-- A holder after such a step was a holder before. -/
theorem Holds.of_from {hd : Holder} {c : Checked} {sid : String} {dev : Int}
    (hreg : PendingFrom w w') (hintent : w'.intentOf = w.intentOf) (htask : TaskFrom w w')
    (hh : Holds cfg w' hd c sid dev) : Holds cfg w hd c sid dev := by
  cases hd with
  | task conn =>
    obtain ⟨t, ht, hstage⟩ := hh
    rcases htask.1 conn t ht with hold | hnone
    · exact ⟨t, hold, hstage⟩
    · rcases hstage with ⟨intent, device, hs, -⟩ | ⟨hs, -⟩
      · rw [hs] at hnone
        cases hnone
      · rw [hs] at hnone
        cases hnone
  | session s =>
    obtain ⟨rfl, x', hx', hp, hc, hdev⟩ := hh
    obtain ⟨x, hx, hpx, hhost⟩ := hreg _ x' hx' hp
    refine ⟨rfl, x, hx, hpx, ?_, hhost ▸ hdev⟩
    rw [WsWorld.checkedOf, hintent] at hc
    exact hc

/-- **Steps without a row**: no new pending session, no new row in hand, no change of rows beyond
counted attempts. -/
theorem plain (h : Once cfg w) (hreg : PendingFrom w w') (htask : TaskFrom w w')
    (hotp : SameRows w.otp w'.otp) (hintent : w'.intentOf = w.intentOf)
    (hacc : w'.accepted = w.accepted) (hcon : w'.consumed = w.consumed) : Once cfg w' := by
  refine h.quiet id {
    holds := fun hd c sid dev hh => Holds.of_from hreg hintent htask hh
    injective := fun _ _ _ _ _ _ _ _ _ _ heq => heq
    rows := fun hd c sid dev _ row hrow => hotp.forward hrow
    spent := fun id row' _ hrow' => ?_
    nextId := le_of_eq hotp.1.symm
    device := fun conn t sid c ht hs => ?_
    consuming := ?_
    accepted := hacc
    consumed := fun p hp => hcon ▸ hp }
  · obtain ⟨row, hrow, hc⟩ := hotp.backward hrow'
    exact ⟨row, hrow, fun hne => hc ▸ hne⟩
  · rcases htask.1 conn t ht with hold | hnone
    · exact h.device conn t sid c hold hs
    · rw [hs] at hnone
      cases hnone
  · rintro id sid ⟨conn, t, c, ht, hs, hid⟩
    exact ⟨conn, t, c, htask.2 conn t sid c ht hs, hs, hid⟩

/-! ## Frames -/

/-- A registry method that creates no session, followed by the end of the frame. -/
theorem performFinish (h : Once cfg w) {conn : ConnId} {t : ConnTask}
    (ht : w.tasks.lookup conn = some t) (hold : ∀ sid c, t.stage ≠ .consuming sid (some c))
    {registry : RegistryInner} (hreg : PendingFrom w { w with registry })
    (identity : Option PeerIdentity) (result : Except SignalMessage Unit) :
    Once cfg ({ w with registry }.finish conn identity result) := by
  refine h.plain hreg (TaskFrom.goto _ ht hold ?_ rfl) (.refl _) rfl rfl rfl
  rcases result with e | u
  · rfl
  · rfl

theorem finish (h : Once cfg w) {conn : ConnId} {t : ConnTask}
    (ht : w.tasks.lookup conn = some t) (hold : ∀ sid c, t.stage ≠ .consuming sid (some c))
    (identity : Option PeerIdentity) (result : Except SignalMessage Unit) :
    Once cfg (w.finish conn identity result) :=
  h.performFinish ht hold (.refl rfl) identity result

theorem otpGate_checked (w : WsWorld) (intent : Intent) (device : Device) (now : Time) :
    (otpGate w intent device now).checked = none := by
  unfold otpGate
  rcases prefilterCode intent.prefilter with _ | code
  · dsimp only
    split_ifs
    · rfl
    · rfl
    · rfl
  · dsimp only
    split_ifs
    · rfl
    · rfl
    · rfl

/-- The device of a connection that owns a session is the one of the session's host. -/
theorem device_of_hostConn (hw : Wired cfg w) {conn : ConnId} {t : ConnTask} {sid : String}
    {x : Session} (ht : w.tasks.lookup conn = some t)
    (hx : w.registry.sessions.lookup sid = some x) (hconn : x.hostConn = conn) :
    ∃ identity, t.identity = some identity ∧
      identity.deviceId = some (cfg.deviceId x.hostPublicId) := by
  obtain ⟨phase, hcoh, -⟩ := hw.coherent
  have hpub := hcoh.published sid x hx
  rw [hconn] at hpub
  obtain ⟨t', identity, ht', hid, hdev⟩ := hw.published _ _ hpub
  rw [ht] at ht'
  obtain rfl := Option.some.inj ht'
  exact ⟨identity, hid, hdev⟩

/-- **Accept**: the pending session's row moves into the hands of the accepting task. -/
theorem accept (h : Once cfg w) (hw : Wired cfg w) {conn : ConnId} {t : ConnTask}
    (ht : w.tasks.lookup conn = some t) (hready : t.stage = .ready) (sid : String) (seq : UInt64)
    (now : Time) (hok : (w.registry.acceptSession cfg.ttls.active conn sid seq now).1 = .ok ()) :
    Once cfg ({ w with
      registry := (w.registry.acceptSession cfg.ttls.active conn sid seq now).2,
      accepted := w.acceptedWith sid }.goto conn t.identity
        (.consuming sid (w.checkedOf sid))) := by
  set registry := (w.registry.acceptSession cfg.ttls.active conn sid seq now).2 with hregistry
  set w₁ : WsWorld := { w with registry, accepted := w.acceptedWith sid }.goto conn t.identity
    (.consuming sid (w.checkedOf sid)) with hw₁
  have hacc : w₁.accepted = w.acceptedWith sid := rfl
  rw [WsWorld.acceptedWith] at hacc
  obtain ⟨x, x', hx, hconn, hpend, hx', hact⟩ := RegistryInner.accept_ok hok
  obtain ⟨identity, hid, hdev⟩ := device_of_hostConn hw ht hx hconn
  have hnot : ∀ sid c, t.stage ≠ .consuming sid (some c) := by
    intro sid c hs
    rw [hready] at hs
    cases hs
  have hpf : PendingFrom w w₁ :=
    PendingFrom.perform cfg.ttls (.acceptSession conn sid seq now) (by simp) rfl
  -- the session before the accept held the row
  have hsession : ∀ c, w.checkedOf sid = some c →
      Holds cfg w (.session sid) c sid (cfg.deviceId x.hostPublicId) :=
    fun c hc => ⟨rfl, x, hx, hpend, hc, rfl⟩
  have htask : w₁.tasks.lookup conn = some ⟨t.identity, .consuming sid (w.checkedOf sid)⟩ :=
    AList.lookup_insert _
  have hother : ∀ c, c ≠ conn → w₁.tasks.lookup c = w.tasks.lookup c :=
    fun c hne => AList.lookup_insert_ne hne
  let back : Holder → Holder := fun hd => if hd = .task conn then .session sid else hd
  have hback : ∀ hd c sid' dev, Holds cfg w₁ hd c sid' dev →
      Holds cfg w (back hd) c sid' dev ∧ hd ≠ .session sid := by
    intro hd c sid' dev hh
    cases hd with
    | task conn' =>
      refine ⟨?_, by simp⟩
      by_cases hc : conn' = conn
      · subst hc
        obtain ⟨u, hu, hstage⟩ := hh
        rw [htask] at hu
        obtain rfl := Option.some.inj hu
        rcases hstage with ⟨intent, device, hs, -⟩ | ⟨hs, id, hid', hdev'⟩
        · cases hs
        · injection hs with hsid hc
          subst hsid
          obtain rfl : identity = id := Option.some.inj (hid.symm.trans hid')
          rw [hdev] at hdev'
          simp only [back, if_true]
          exact Option.some.inj hdev' ▸ hsession c hc
      · obtain ⟨u, hu, hstage⟩ := hh
        rw [hother conn' hc] at hu
        simp only [back, Holder.task.injEq, hc, if_false]
        exact ⟨u, hu, hstage⟩
    | session s =>
      obtain ⟨rfl, y, hy, hpy, hc, hdev'⟩ := hh
      have hne : s ≠ sid := by
        rintro rfl
        rw [show w₁.registry.sessions = registry.sessions from rfl, hregistry, hx'] at hy
        obtain rfl := Option.some.inj hy
        rw [hact] at hpy
        cases hpy
      obtain ⟨y₀, hy₀, hpy₀, hhost⟩ := hpf s y hy hpy
      refine ⟨?_, by simpa using hne⟩
      simp only [back, reduceCtorEq, if_false]
      exact ⟨rfl, y₀, hy₀, hpy₀, hc, hhost ▸ hdev'⟩
  have hopen : Once cfg { w₁ with accepted := w.accepted } := by
    refine h.quiet back {
      holds := fun hd c sid' dev hh => (hback hd c sid' dev hh).1
      injective := fun hd c s d hd' c' s' d' hh hh' heq => ?_
      rows := fun _ _ _ _ _ row hrow => ⟨row, hrow, rfl, rfl, rfl⟩
      spent := fun id row' _ hrow' => ⟨row', hrow', fun hne => hne⟩
      nextId := le_rfl
      device := fun c u s ch hu hs => ?_
      consuming := ?_
      accepted := rfl
      consumed := fun _ hp => hp }
    · have hne := (hback hd c s d hh).2
      have hne' := (hback hd' c' s' d' hh').2
      simp only [back] at heq
      split_ifs at heq with h1 h2 h2
      · rw [h1, h2]
      · exact absurd heq.symm hne'
      · exact absurd heq hne
      · exact heq
    · by_cases hc : c = conn
      · subst hc
        have hu' := htask.symm.trans hu
        obtain rfl := Option.some.inj hu'
        exact ⟨identity, _, hid, hdev⟩
      · exact h.device c u s ch ((hother c hc).symm.trans hu) hs
    · rintro id s ⟨c, u, ch, hu, hs, heq⟩
      have hne : c ≠ conn := by
        rintro rfl
        rw [ht] at hu
        obtain rfl := Option.some.inj hu
        exact hnot s ch hs
      exact ⟨c, u, ch, (hother c hne).trans hu, hs, heq⟩
  -- it remains to add the accepted session
  rcases hch : w.checkedOf sid with _ | c
  · simp only [hch] at hacc
    rw [← hacc] at hopen
    exact hopen
  · simp only [hch] at hacc
    have hrow := h.held _ _ _ _ (hsession c hch)
    obtain ⟨row, hrow, -⟩ := hrow
    have hnew : ∀ s, (c.row.id, s) ∉ w.accepted :=
      h.not_accepted (hsession c hch) fun _ _ heq => by cases heq
    refine ⟨hopen.held, hopen.exclusive, hopen.device, fun id s hm => ?_, ?_⟩
    · rw [hacc, List.mem_append, List.mem_singleton] at hm
      rcases hm with hm | hm
      · exact hopen.accepted id s hm
      · obtain ⟨rfl, rfl⟩ := Prod.mk.inj hm
        exact ⟨(hw.indexed.rows _ _ hrow).2.2, .inl ⟨conn, _, c, htask, by rw [hch], rfl⟩⟩
    · rw [hacc, List.map_append]
      refine List.Nodup.append h.nodup (List.nodup_singleton _) ?_
      intro id hid₁ hid₂
      obtain rfl := List.mem_singleton.mp hid₂
      obtain ⟨⟨_, s⟩, hm, rfl⟩ := List.mem_map.mp hid₁
      exact hnew s hm

theorem handleText (h : Once cfg w) (hw : Wired cfg w) {conn : ConnId} {t : ConnTask}
    {identity : PeerIdentity} (ht : w.tasks.lookup conn = some t)
    (hid : t.identity = some identity) (hready : t.stage = .ready)
    (decoded : Except String SignalMessage) (ans : Answers) :
    Once cfg (handleText cfg w conn identity decoded ans) := by
  have hnot : ∀ sid c, t.stage ≠ .consuming sid (some c) := by
    intro sid c hs
    rw [hready] at hs
    cases hs
  have hfin := h.finish ht hnot (some identity)
  have hperf : ∀ e : RegistryEvent, (∀ req now, e ≠ .createPendingSession req now) →
      ∀ result, Once cfg ({ w with registry := (e.perform cfg.ttls w.registry).2 }.finish conn
        (some identity) result) :=
    fun e he result => h.performFinish ht hnot (.perform cfg.ttls e he rfl) (some identity) result
  rcases decoded with e | msg
  · exact hfin (.error (.error "protocol_error" s!"invalid message: {e}"))
  have hserver := hfin
    (.error (.error "protocol_error" "message type is server→client only"))
  have hrelay := hperf (.relayMediaSignal conn msg ans.now) (by simp)
  cases msg with
  | hello role version auth =>
    exact hfin (.error (.error "protocol_error" "hello already completed for this connection"))
  | helloOk serverTime flags => exact hserver
  | sessionIncoming sid seq info mode pre => exact hserver
  | error code message => exact hserver
  | sessionOffer sid seq sdp sig => exact hrelay _
  | sessionAnswer sid seq sdp => exact hrelay _
  | iceCandidate sid seq candidate => exact hrelay _
  | mediaRestart sid seq => exact hrelay _
  | renegotiate sid seq => exact hrelay _
  | authChallenge sid seq payload => exact hrelay _
  | authResponse sid seq payload => exact hrelay _
  | stats sid seq payload => exact hrelay _
  | sessionEnd sid seq reason =>
    exact hperf (.endSession conn sid seq reason ans.now) (by simp) _
  | sessionReject sid seq reason =>
    simp only [RemoteLink.Server.handleText]
    split_ifs
    · exact hfin _
    · exact hperf (.rejectSession conn sid seq reason ans.now) (by simp) _
  | sessionAccept sid seq =>
    simp only [RemoteLink.Server.handleText]
    split_ifs
    · exact hfin _
    · rcases hacc : w.registry.acceptSession cfg.ttls.active conn sid seq ans.now with
        ⟨e | u, registry⟩
      · have := hperf (.acceptSession conn sid seq ans.now) (by simp) (.error e)
        simpa only [RegistryEvent.perform, hacc] using this
      · have := h.accept hw ht hready sid seq ans.now (by rw [hacc])
        simpa only [hacc, hid] using this
  | sessionIntent sid seq host mode prefilter =>
    simp only [RemoteLink.Server.handleText]
    rcases checkIntent identity ⟨sid, seq, host, mode, prefilter⟩ ans with e | device
    · exact hfin _
    · exact h.plain (.refl rfl) (TaskFrom.goto _ ht hnot (otpGate_checked _ _ _ _) rfl) (.refl _)
        rfl rfl rfl

/-! ## Later lock sections -/

/-- **Prefilter**: a passed prefilter makes the task the only holder of a row nobody held. -/
theorem prefilterStep (h : Once cfg w) (hw : Wired cfg w) {conn : ConnId} {t : ConnTask}
    {intent : Intent} {device : Device} {code : String} {now : Time}
    (ht : w.tasks.lookup conn = some t)
    (hstage : t.stage = .prefiltering intent device code now)
    (hfree : ∀ id row, w.otp.prefilterRow now (w.otp.idsOf device.id).reverse = some (id, row) →
      row.attempts < maxOtpAttempts → Time.timestamp now < Time.timestamp row.expiresAt →
      verifyOtp cfg.crypto code cfg.otpPepper row.hash = .ok () →
      ∀ hd c sid dev, Holds cfg w hd c sid dev → c.row.id ≠ id) :
    Once cfg (prefilterStep cfg w conn t.identity intent device code now) := by
  have hnot : ∀ sid c, t.stage ≠ .consuming sid (some c) := by
    intro sid c hs
    rw [hstage] at hs
    cases hs
  unfold RemoteLink.Server.prefilterStep
  rcases OtpStore.prefilterBind_cases cfg.crypto w.otp device.id code cfg.otpPepper
    intent.sessionId now with ⟨id, row, hrow, hatt, htime, hverify, heq⟩ | ⟨hfail, hotp⟩
  · -- the prefilter passed
    obtain ⟨hmem, hlook, hnone, -⟩ := OtpStore.prefilterRow_some hrow
    have hid : row.id = id := (hw.indexed.rows id row hlook).1
    have hhost : row.hostDeviceId = device.id := by
      rw [List.mem_reverse] at hmem
      rcases hw.indexed.idsOf_cases device.id with hnil | ⟨r, hr, hlook', hdev⟩
      · rw [hnil] at hmem
        cases hmem
      · rw [hr, List.mem_singleton] at hmem
        subst hmem
        rw [hlook] at hlook'
        exact Option.some.inj hlook' ▸ hdev
    have hother := hfree id row hrow hatt htime hverify
    simp only [heq, hrow, Option.map_some, if_true]
    set w₁ : WsWorld := { w with otp := { w.otp with
        byId := w.otp.byId.insert id { row with sessionIntentId := some intent.sessionId } }
      }.goto conn t.identity (.creating intent device (some ⟨row, code, now⟩)) with hw₁
    have htask : w₁.tasks.lookup conn =
        some ⟨t.identity, .creating intent device (some ⟨row, code, now⟩)⟩ :=
      AList.lookup_insert _
    have htasks : ∀ c, c ≠ conn → w₁.tasks.lookup c = w.tasks.lookup c :=
      fun c hne => AList.lookup_insert_ne hne
    have hrows : ∀ k, w₁.otp.byId.lookup k = if k = id then
        some { row with sessionIntentId := some intent.sessionId } else w.otp.byId.lookup k :=
      fun k => HashMap.lookup_insert_if _ _ _ _
    -- a holder is the task itself or held another row before
    have hcases : ∀ hd c sid dev, Holds cfg w₁ hd c sid dev →
        (hd = .task conn ∧ c = ⟨row, code, now⟩ ∧ sid = intent.sessionId ∧ dev = device.id) ∨
        (Holds cfg w hd c sid dev ∧ c.row.id ≠ id) := by
      intro hd c sid dev hh
      cases hd with
      | task conn' =>
        obtain ⟨u, hu, hs⟩ := hh
        by_cases hc : conn' = conn
        · subst hc
          rw [htask] at hu
          obtain rfl := Option.some.inj hu
          rcases hs with ⟨intent', device', hs, hsid, hdev⟩ | ⟨hs, -⟩
          · injection hs with hi hd hch
            subst hi hd
            exact .inl ⟨rfl, (Option.some.inj hch).symm, hsid.symm, hdev.symm⟩
          · cases hs
        · have hh : Holds cfg w (.task conn') c sid dev := ⟨u, htasks conn' hc ▸ hu, hs⟩
          exact .inr ⟨hh, hother _ _ _ _ hh⟩
      | session s =>
        have hh : Holds cfg w (.session s) c sid dev := hh
        exact .inr ⟨hh, hother _ _ _ _ hh⟩
    refine ⟨fun hd c sid dev hh => ?_, fun hd c s d hd' c' s' d' hh hh' heq' => ?_,
      fun c u s ch hu hs => ?_, fun k s hm => ?_, h.nodup⟩
    · rcases hcases hd c sid dev hh with ⟨-, rfl, rfl, rfl⟩ | ⟨hold, hne⟩
      · refine ⟨{ row with sessionIntentId := some intent.sessionId }, ?_, hnone, rfl, hhost⟩
        rw [hrows]
        exact if_pos hid
      · rw [hrows, if_neg hne]
        exact h.held _ _ _ _ hold
    · rcases hcases _ _ _ _ hh with ⟨rfl, rfl, -, -⟩ | ⟨hold, hne⟩
      · rcases hcases _ _ _ _ hh' with ⟨rfl, -⟩ | ⟨-, hne'⟩
        · rfl
        · exact absurd (heq'.symm.trans hid) hne'
      · rcases hcases _ _ _ _ hh' with ⟨-, rfl, -, -⟩ | ⟨hold', -⟩
        · exact absurd (heq'.trans hid) hne
        · exact h.exclusive _ _ _ _ _ _ _ _ hold hold' heq'
    · by_cases hc : c = conn
      · subst hc
        rw [htask] at hu
        obtain rfl := Option.some.inj hu
        cases hs
      · exact h.device c u s ch (htasks c hc ▸ hu) hs
    · obtain ⟨hle, hor⟩ := h.accepted k s hm
      refine ⟨hle, ?_⟩
      rcases hor with ⟨c, u, ch, hu, hs, hk⟩ | ⟨hcon, hrowk⟩
      · refine .inl ⟨c, u, ch, ?_, hs, hk⟩
        have hne : c ≠ conn := by
          rintro rfl
          rw [ht] at hu
          exact hnot s ch (Option.some.inj hu ▸ hs)
        rw [htasks c hne]
        exact hu
      · refine .inr ⟨hcon, fun r hr => ?_⟩
        have hne : k ≠ id := by
          rintro rfl
          exact hrowk row hlook hnone
        rw [hrows, if_neg hne] at hr
        exact hrowk r hr
  · -- the prefilter did not pass
    have hsame : SameRows w.otp (OtpStore.prefilterBind cfg.crypto w.otp device.id code
        cfg.otpPepper intent.sessionId now).2 := by
      rcases hotp with heq | ⟨id, row, hrow, heq⟩
      · rw [heq]
        exact .refl _
      · rw [heq]
        exact .insert (OtpStore.prefilterRow_some hrow).2.1 rfl rfl rfl
    simp only [hfail, if_false]
    refine h.plain (.refl rfl) (TaskFrom.goto _ ht hnot ?_ rfl) hsame rfl rfl rfl
    rfl

/-- **Create**: the row in the task's hand moves to the pending session. -/
theorem createStep (h : Once cfg w) (hw : Wired cfg w) {conn : ConnId} {t : ConnTask}
    {identity : PeerIdentity} {intent : Intent} {device : Device} {checked : Option Checked}
    (ans : Answers) (ht : w.tasks.lookup conn = some t)
    (hstage : t.stage = .creating intent device checked) :
    Once cfg (createStep cfg w conn identity intent device checked ans) := by
  have hnot : ∀ sid c, t.stage ≠ .consuming sid (some c) := by
    intro sid c hs
    rw [hstage] at hs
    cases hs
  have hfits := hw.tasks conn t ht
  rw [hstage] at hfits
  obtain ⟨-, hdevice⟩ := hfits
  unfold RemoteLink.Server.createStep
  rcases ans.hostLimit with _ | e
  swap
  · exact h.finish ht hnot _ _
  dsimp only
  set req : CreatePendingSession := ⟨conn, intent.sessionId, intent.hostPublicId, device,
    intent.mode, intent.signalSeq, defaultViewerInfo identity⟩ with hreq
  rcases hres : w.registry.createPendingSession cfg.ttls.pending req ans.now with
    ⟨e | u, registry⟩
  · refine h.performFinish ht hnot ?_ _ _
    intro sid x' hx' hp
    have herr : (w.registry.createPendingSession cfg.ttls.pending req ans.now).1 = .error e := by
      rw [hres]
    have hx : (w.registry.createPendingSession cfg.ttls.pending req ans.now).2.sessions.lookup
        sid = some x' := by
      rw [hres]
      exact hx'
    exact ⟨x', (RegistryInner.lookup_of_reap
      (RegistryInner.lookup_of_create_error herr hx)).1, hp, rfl⟩
  · dsimp only
    set a : Admitted := ⟨intent.sessionId, intent.hostPublicId, intent.mode, checked⟩ with ha
    set w₁ : WsWorld := { w with
      registry
      intentOf := w.intentOf.insert intent.sessionId a
      admitted := w.admitted ++ [a] }.finish conn (some identity) (.ok ()) with hw₁
    have hok : (w.registry.createPendingSession cfg.ttls.pending req ans.now).1 = .ok () := by
      rw [hres]
    obtain ⟨hostConn, seq, hsessions⟩ := RegistryInner.create_ok hok
    rw [hres] at hsessions
    have htask : w₁.tasks.lookup conn = some ⟨some identity, .ready⟩ := AList.lookup_insert _
    have htasks : ∀ c, c ≠ conn → w₁.tasks.lookup c = w.tasks.lookup c :=
      fun c hne => AList.lookup_insert_ne hne
    let back : Holder → Holder :=
      fun hd => if hd = .session intent.sessionId then .task conn else hd
    have hback : ∀ hd c sid dev, Holds cfg w₁ hd c sid dev →
        Holds cfg w (back hd) c sid dev ∧ hd ≠ .task conn := by
      intro hd c sid dev hh
      cases hd with
      | task conn' =>
        obtain ⟨u, hu, hs⟩ := hh
        have hne : conn' ≠ conn := by
          rintro rfl
          rw [htask] at hu
          obtain rfl := Option.some.inj hu
          rcases hs with ⟨_, _, hs, -⟩ | ⟨hs, -⟩ <;> cases hs
        refine ⟨?_, by simpa using hne⟩
        simp only [back, reduceCtorEq, if_false]
        exact ⟨u, htasks conn' hne ▸ hu, hs⟩
      | session s =>
        obtain ⟨rfl, x, hx, hp, hc, hdev⟩ := hh
        refine ⟨?_, by simp⟩
        have hx' : (AList.insert intent.sessionId
            (RegistryInner.pendingSession cfg.ttls.pending req hostConn seq ans.now)
            (w.registry.reapExpired ans.now).2.sessions).lookup s = some x := by
          rw [← hsessions]
          exact hx
        rw [HashMap.lookup_insert_if] at hx'
        have hchecked : w₁.checkedOf s =
            ((w.intentOf.insert intent.sessionId a).lookup s).bind Admitted.checked := rfl
        rw [hchecked, HashMap.lookup_insert_if] at hc
        by_cases hs : s = intent.sessionId
        · subst hs
          rw [if_pos rfl] at hx' hc
          obtain rfl := Option.some.inj hx'
          simp only [back, if_true]
          have hch : checked = some c := hc
          subst hch
          exact ⟨t, ht, .inl ⟨intent, device, hstage, rfl, hdevice.trans hdev⟩⟩
        · rw [if_neg hs] at hx' hc
          simp only [back, Holder.session.injEq, hs, if_false]
          exact ⟨rfl, x, (RegistryInner.lookup_of_reap hx').1, hp, hc, hdev⟩
    refine h.quiet back {
      holds := fun hd c sid dev hh => (hback hd c sid dev hh).1
      injective := fun hd c s d hd' c' s' d' hh hh' heq => ?_
      rows := fun _ _ _ _ _ row hrow => ⟨row, hrow, rfl, rfl, rfl⟩
      spent := fun id row' _ hrow' => ⟨row', hrow', fun hne => hne⟩
      nextId := le_rfl
      device := fun c u s ch hu hs => ?_
      consuming := ?_
      accepted := rfl
      consumed := fun _ hp => hp }
    · have hne := (hback hd c s d hh).2
      have hne' := (hback hd' c' s' d' hh').2
      simp only [back] at heq
      split_ifs at heq with h1 h2 h2
      · rw [h1, h2]
      · exact absurd heq.symm hne'
      · exact absurd heq hne
      · exact heq
    · by_cases hc : c = conn
      · subst hc
        rw [htask] at hu
        obtain rfl := Option.some.inj hu
        cases hs
      · exact h.device c u s ch (htasks c hc ▸ hu) hs
    · rintro id s ⟨c, u, ch, hu, hs, heq⟩
      have hne : c ≠ conn := by
        rintro rfl
        rw [ht] at hu
        exact hnot s ch (Option.some.inj hu ▸ hs)
      exact ⟨c, u, ch, (htasks c hne).trans hu, hs, heq⟩

/-- A consumption that hits no row in flight, or the row of its own task. -/
theorem consumed (h : Once cfg w) (hw : Wired cfg w) {conn : ConnId} {t : ConnTask}
    {sid : String} {checked : Option Checked} {identity : PeerIdentity} {dev : Int} {now : Time}
    (ht : w.tasks.lookup conn = some t) (hstage : t.stage = .consuming sid checked)
    (hid : t.identity = some identity) (hdev : identity.deviceId = some dev)
    (hlive : ∀ c, checked = some c → ∀ row, w.otp.byId.lookup c.row.id = some row →
      now < row.expiresAt)
    (hfree : checked = none → ∀ hd c, ¬Holds cfg w hd c sid dev) :
    Once cfg (consumeStep w conn identity sid now) := by
  set w₁ := RemoteLink.Server.consumeStep w conn identity sid now with hw₁
  have htask : w₁.tasks.lookup conn = some ⟨some identity, .ready⟩ := by
    simp only [hw₁, RemoteLink.Server.consumeStep, hdev]
    exact AList.lookup_insert _
  have htasks : ∀ c, c ≠ conn → w₁.tasks.lookup c = w.tasks.lookup c := by
    intro c hne
    simp only [hw₁, RemoteLink.Server.consumeStep, hdev]
    exact AList.lookup_insert_ne hne
  have hsame : w₁.registry = w.registry ∧ w₁.intentOf = w.intentOf ∧ w₁.accepted = w.accepted ∧
      w₁.otp = (w.otp.consumeForSession dev sid now).2 := by
    simp only [hw₁, RemoteLink.Server.consumeStep, hdev]
    exact ⟨rfl, rfl, rfl, rfl⟩
  obtain ⟨hreg, hintent, hacc, hotp⟩ := hsame
  have hback : ∀ hd c s d, Holds cfg w₁ hd c s d → Holds cfg w hd c s d ∧ hd ≠ .task conn := by
    intro hd c s d hh
    cases hd with
    | task conn' =>
      obtain ⟨u, hu, hs⟩ := hh
      have hne : conn' ≠ conn := by
        rintro rfl
        rw [htask] at hu
        obtain rfl := Option.some.inj hu
        rcases hs with ⟨_, _, hs, -⟩ | ⟨hs, -⟩ <;> cases hs
      exact ⟨⟨u, htasks conn' hne ▸ hu, hs⟩, by simpa using hne⟩
    | session s' =>
      obtain ⟨rfl, x, hx, hp, hc, hd⟩ := hh
      rw [hreg] at hx
      rw [WsWorld.checkedOf, hintent] at hc
      exact ⟨⟨rfl, x, hx, hp, hc, hd⟩, by simp⟩
  -- the task's own row, if it has one, is the one that is found
  have hown : ∀ c, checked = some c → Holds cfg w (.task conn) c sid dev := by
    rintro c rfl
    exact ⟨t, ht, .inr ⟨hstage, identity, hid, hdev⟩⟩
  have hfound : ∀ c, checked = some c → ∃ row, w.otp.byId.lookup c.row.id = some row ∧
      w.otp.boundRow sid (w.otp.idsOf dev) = some (c.row.id, row) ∧ row.consumedAt = none := by
    intro c hc
    obtain ⟨row, hrow, hnone, hbound, hhost⟩ := h.held _ _ _ _ (hown c hc)
    have hids := hw.indexed.idsOf_of_row hrow
    rw [hhost] at hids
    exact ⟨row, hrow, by rw [hids, OtpStore.boundRow_singleton hrow hbound], hnone⟩
  rcases OtpStore.consumeForSession_cases w.otp dev sid now with
    ⟨id, row, hrow, hnone, hunexp, heq⟩ | ⟨e, heq, hwhy⟩
  · obtain ⟨hmem, hlook, hbound⟩ := OtpStore.boundRow_some hrow
    have hrows : ∀ k, w₁.otp.byId.lookup k = if k = id then
        some { row with consumedAt := some now } else w.otp.byId.lookup k := by
      intro k
      rw [hotp, heq]
      exact HashMap.lookup_insert_if _ _ _ _
    have hcon : w₁.consumed = w.consumed ++ [(id, sid)] := by
      simp only [hw₁, RemoteLink.Server.consumeStep, hdev, heq, hrow]
      rfl
    have hnext : w₁.otp.nextId = w.otp.nextId := by
      rw [hotp, heq]
    -- no holder after the step holds the consumed row
    have hunheld : ∀ hd c s d, Holds cfg w₁ hd c s d → c.row.id ≠ id := by
      intro hd c s d hh heqid
      obtain ⟨hh, hne⟩ := hback hd c s d hh
      rcases hchk : checked with _ | c₀
      · obtain ⟨r, hr, -, hs, hhost⟩ := h.held _ _ _ _ hh
        rw [heqid, hlook] at hr
        obtain rfl := Option.some.inj hr
        rw [hbound] at hs
        obtain rfl := Option.some.inj hs
        have hrd : row.hostDeviceId = dev := by
          rcases hw.indexed.idsOf_cases dev with hnil | ⟨r', hr', hlook', hdev'⟩
          · rw [hnil] at hmem
            cases hmem
          · rw [hr', List.mem_singleton] at hmem
            subst hmem
            rw [hlook] at hlook'
            exact Option.some.inj hlook' ▸ hdev'
        rw [hrd] at hhost
        subst hhost
        exact hfree hchk hd c hh
      · obtain ⟨r, -, hr, -⟩ := hfound c₀ hchk
        rw [hrow] at hr
        have hid₀ : id = c₀.row.id := (Prod.mk.inj (Option.some.inj hr)).1
        exact hne (h.exclusive _ _ _ _ _ _ _ _ hh (hown c₀ hchk) (heqid.trans hid₀))
    refine ⟨fun hd c s d hh => ?_, fun hd c s d hd' c' s' d' hh hh' => ?_,
      fun c u s ch hu hs => ?_, fun k s hm => ?_, hacc ▸ h.nodup⟩
    · rw [hrows, if_neg (hunheld hd c s d hh)]
      exact h.held _ _ _ _ (hback hd c s d hh).1
    · exact h.exclusive _ _ _ _ _ _ _ _ (hback _ _ _ _ hh).1 (hback _ _ _ _ hh').1
    · by_cases hc : c = conn
      · subst hc
        rw [htask] at hu
        obtain rfl := Option.some.inj hu
        cases hs
      · exact h.device c u s ch (htasks c hc ▸ hu) hs
    · rw [hacc] at hm
      obtain ⟨hle, hor⟩ := h.accepted k s hm
      refine ⟨hnext ▸ hle, ?_⟩
      rw [hcon]
      rcases hor with ⟨c, u, ch, hu, hs, hk⟩ | ⟨hc, hrowk⟩
      · by_cases hcc : c = conn
        · -- this accept consumes its row now
          subst hcc
          rw [ht] at hu
          obtain rfl := Option.some.inj hu
          rw [hstage] at hs
          injection hs with hsid hchk
          obtain ⟨r, -, hr, -⟩ := hfound ch hchk
          rw [hrow] at hr
          have hid₀ : id = ch.row.id := (Prod.mk.inj (Option.some.inj hr)).1
          refine .inr ⟨List.mem_append_right _ ?_, fun r hr => ?_⟩
          · rw [List.mem_singleton, ← hk, hid₀, hsid]
          · rw [hrows, if_pos (hk.symm.trans hid₀.symm)] at hr
            obtain rfl := Option.some.inj hr
            simp
        · exact .inl ⟨c, u, ch, htasks c hcc ▸ hu, hs, hk⟩
      · refine .inr ⟨List.mem_append_left _ hc, fun r hr => ?_⟩
        rw [hrows] at hr
        split_ifs at hr with hkid
        · obtain rfl := Option.some.inj hr
          simp
        · exact hrowk r hr
  · -- nothing was consumed, so the task had no row in hand
    have hchk : checked = none := by
      rcases hc : checked with _ | c
      · rfl
      · obtain ⟨row, hrow, hbound, hnone⟩ := hfound c hc
        rcases hwhy _ _ hbound with hsome | hexp
        · exact absurd hnone hsome
        · exact absurd (hlive c hc row hrow) (Int.not_lt.mpr hexp)
    have hcon : w₁.consumed = w.consumed := by
      simp only [hw₁, RemoteLink.Server.consumeStep, hdev, heq]
      rfl
    refine h.plain (.refl hreg) ?_ ?_ hintent hacc hcon
    · refine TaskFrom.goto ⟨some identity, .ready⟩ ht ?_ rfl ?_
      · intro s c hs
        rw [hstage, hchk] at hs
        cases hs
      · simp only [hw₁, RemoteLink.Server.consumeStep, hdev]
        rfl
    · rw [hotp, heq]
      exact .refl _

theorem proceed (h : Once cfg w) (hw : Wired cfg w) {conn : ConnId} {t : ConnTask}
    {ans : Answers} (ht : w.tasks.lookup conn = some t)
    (hc : Undisturbed cfg w (.proceed conn ans)) (hs : proceed cfg w conn t ans = some w') :
    Once cfg w' := by
  have hcond := hc t ht
  obtain ⟨identity, stage⟩ := t
  cases stage with
  | awaitHello => simp [RemoteLink.Server.proceed] at hs
  | ready => simp [RemoteLink.Server.proceed] at hs
  | greeting =>
    obtain rfl := Option.some.inj hs
    refine h.plain (.perform cfg.ttls (.sendTo conn _) (by simp) rfl)
      (TaskFrom.goto _ ht (by simp) ?_ rfl) (.refl _) rfl rfl rfl
    dsimp only
    split_ifs
    · rfl
    · rfl
  | prefiltering intent device code now =>
    obtain rfl := Option.some.inj hs
    exact h.prefilterStep hw ht rfl hcond
  | creating intent device checked =>
    rcases identity with _ | identity
    · simp [RemoteLink.Server.proceed] at hs
    · obtain rfl := Option.some.inj hs
      exact h.createStep hw ans ht rfl
  | consuming sid checked =>
    rcases identity with _ | identity
    · simp [RemoteLink.Server.proceed] at hs
    · obtain rfl := Option.some.inj hs
      rcases hdev : identity.deviceId with _ | dev
      · -- only a session without a row is accepted by a connection without a device
        have hnone : checked = none := by
          rcases checked with _ | c
          · rfl
          · obtain ⟨id, dev, hid, hd⟩ := h.device conn _ sid c ht rfl
            obtain rfl := Option.some.inj hid
            rw [hdev] at hd
            cases hd
        subst hnone
        simp only [RemoteLink.Server.consumeStep, hdev]
        exact h.finish ht (by simp) _ _
      · refine h.consumed hw ht rfl rfl hdev ?_ ?_
        · rintro c rfl
          exact hcond
        · rintro rfl hd c
          exact hcond identity dev hd c rfl hdev
  | replying msg andClose =>
    obtain rfl := Option.some.inj hs
    refine h.plain (.perform cfg.ttls (.sendTo conn msg) (by simp) rfl)
      (TaskFrom.goto _ ht (by simp) ?_ rfl) (.refl _) rfl rfl rfl
    dsimp only
    split_ifs
    · rfl
    · rfl
  | closing =>
    obtain rfl := Option.some.inj hs
    refine h.plain (.perform cfg.ttls (.unregisterConn conn) (by simp) rfl) ⟨?_, ?_⟩
      (.refl _) rfl rfl rfl
    · intro c u hu
      rw [HashMap.lookup_erase_if] at hu
      split_ifs at hu
      exact .inl hu
    · intro c u sid ch hu hs
      have hne : c ≠ conn := by
        rintro rfl
        rw [ht] at hu
        obtain rfl := Option.some.inj hu
        cases hs
      exact (AList.lookup_erase_ne hne).trans hu

/-- Minting while no intent relies on a row of the host. -/
theorem mintOtp (h : Once cfg w) (hw : Wired cfg w) {host : Int} {hash : OtpHash}
    {expiresAt now : Time} (hfree : ∀ hd c sid, ¬Holds cfg w hd c sid host) :
    Once cfg { w with otp := (w.otp.storeHash host hash expiresAt now).2 } := by
  have hrows : ∀ k, (w.otp.storeHash host hash expiresAt now).2.byId.lookup k =
      if k = w.otp.nextId + 1 then
        some ⟨w.otp.nextId + 1, host, hash, expiresAt, none, none, 0, now⟩
      else if k ∈ w.otp.idsOf host then none else w.otp.byId.lookup k := by
    intro k
    simp only [OtpStore.storeHash, HashMap.lookup_insert_if, HashMap.lookup_eraseAll]
  refine h.quiet id {
    holds := fun _ _ _ _ hh => hh
    injective := fun _ _ _ _ _ _ _ _ _ _ heq => heq
    rows := fun hd c sid dev hh row hrow => ⟨row, ?_, rfl, rfl, rfl⟩
    spent := fun k row' hle hrow' => ⟨row', ?_, fun hne => hne⟩
    nextId := Nat.le_succ _
    device := h.device
    consuming := fun _ _ hb => hb
    accepted := rfl
    consumed := fun _ hp => hp }
  · have hlook := hw.indexed.rows _ _ hrow
    rw [hrows, if_neg (by omega), if_neg]
    · exact hrow
    · intro hmem
      rcases hw.indexed.idsOf_cases host with hnil | ⟨r, hr, hlook', hdev⟩
      · rw [hnil] at hmem
        cases hmem
      · rw [hr, List.mem_singleton] at hmem
        rw [← hmem, hrow] at hlook'
        obtain rfl := Option.some.inj hlook'
        obtain ⟨r', hr', -, -, hhost⟩ := h.held _ _ _ _ hh
        rw [hrow] at hr'
        obtain rfl := Option.some.inj hr'
        rw [← hhost, hdev] at hh
        exact hfree hd c sid hh
  · dsimp only at hrow'
    rw [hrows, if_neg (by omega)] at hrow'
    split_ifs at hrow'
    exact hrow'

/-- **The step lemma**: an undisturbed step keeps every row behind at most one session. -/
theorem step {e : WsEvent} (h : Once cfg w) (hw : Wired cfg w) (hc : Undisturbed cfg w e)
    (hs : wsStep cfg w e = some w') : Once cfg w' := by
  cases e with
  | connect =>
    obtain rfl := Option.some.inj hs
    obtain ⟨phase, hcoh, hphase⟩ := hw.coherent
    refine h.plain (.perform cfg.ttls .registerConn (by simp) rfl) ⟨?_, ?_⟩ (.refl _)
      rfl rfl rfl
    · intro c u hu
      simp only [WsWorld.goto, HashMap.lookup_insert_if] at hu
      split_ifs at hu
      · obtain rfl := Option.some.inj hu
        exact .inr rfl
      · exact .inl hu
    · intro c u sid ch hu _
      have hlt := hcoh.fresh c (by rw [hphase c u hu]; rfl)
      exact (AList.lookup_insert_ne (Nat.ne_of_lt hlt)).trans hu
  | frame conn frame ans =>
    simp only [wsStep] at hs
    split_ifs at hs
    obtain ⟨t, ht, hs⟩ := Option.bind_eq_some_iff.mp hs
    obtain ⟨identity, stage⟩ := t
    cases stage with
    | awaitHello =>
      simp only [handleFrame] at hs
      obtain rfl := Option.some.inj hs
      rcases expectHello frame ans with e | id
      · exact h.plain (.refl rfl) (TaskFrom.goto _ ht (by simp) rfl rfl) (.refl _) rfl rfl rfl
      · exact h.plain (.perform cfg.ttls (.bindPeer conn id) (by simp) rfl)
          (TaskFrom.goto _ ht (by simp) rfl rfl) (.refl _) rfl rfl rfl
    | ready =>
      rcases identity with _ | identity
      · simp [handleFrame] at hs
      · simp only [handleFrame] at hs
        obtain rfl := Option.some.inj hs
        cases frame with
        | text decoded => exact h.handleText hw ht rfl rfl decoded ans
        | binary =>
          exact h.finish ht (by simp) _
            (.error (.error "protocol_error" "binary frames are not supported"))
        | pingPong => exact h
        | close =>
          exact h.plain (.refl rfl) (TaskFrom.goto _ ht (by simp) rfl rfl) (.refl _) rfl rfl rfl
    | greeting => simp [handleFrame] at hs
    | prefiltering intent device code now => simp [handleFrame] at hs
    | creating intent device checked => simp [handleFrame] at hs
    | consuming sid checked => simp [handleFrame] at hs
    | replying msg andClose => simp [handleFrame] at hs
    | closing => simp [handleFrame] at hs
  | proceed conn ans =>
    obtain ⟨t, ht, hs⟩ := Option.bind_eq_some_iff.mp hs
    exact h.proceed hw ht hc hs
  | dropReceiver conn =>
    obtain rfl := Option.some.inj hs
    exact h.plain (.perform cfg.ttls (.dropReceiver conn) (by simp) rfl) (.refl rfl)
      (.refl _) rfl rfl rfl
  | mintOtp host hash ttlSecs now =>
    simp only [wsStep] at hs
    split_ifs at hs
    obtain rfl := Option.some.inj hs
    exact h.mintOtp hw hc
  | reapExpired now =>
    obtain rfl := Option.some.inj hs
    exact h.plain (.perform cfg.ttls (.reapExpired now) (by simp) rfl) (.refl rfl)
      (.refl _) rfl rfl rfl
  | forceDisconnect sid reason now =>
    obtain rfl := Option.some.inj hs
    exact h.plain (.perform cfg.ttls (.forceDisconnect sid reason now) (by simp) rfl)
      (.refl rfl) (.refl _) rfl rfl rfl

end Once

/-! ## Runs -/

/-- **Rows are consumed once in undisturbed runs.** When no step of a run disturbs the row of an
intent in flight, every accepted session whose intent passed the prefilter has its row consumed
by its accept, and no row is behind two accepted sessions.

**Proof sketch.** `Once` together with `Wired` is an invariant. A passed prefilter makes its task
the only holder of the row; creating the session and accepting it pass the row on; consuming
finds it because it is still bound to the session. -/
theorem otp_consumed_once {cfg : ServerConfig} {w : WsWorld}
    (h : (wsSystem cfg).ReachableVia (Undisturbed cfg) w) : ConsumedOnce w := by
  have hinv : Once cfg w ∧ Wired cfg w := by
    refine h.invariant (fun w => Once cfg w ∧ Wired cfg w) ?_ ?_
    · rintro w hw
      obtain rfl : w = .empty := hw
      exact ⟨.empty, .empty⟩
    · rintro w e w' ⟨ho, hw⟩ hc hs
      exact ⟨ho.step hw hc hs, hw.step hs⟩
  exact hinv.1.consumedOnce

/-! ## Executable check of the condition -/

/-- The checks of all intents in flight, and of those whose sessions are no longer pending. -/
def WsWorld.checks (w : WsWorld) : List Checked :=
  w.tasks.entries.filterMap (fun e => e.2.stage.checked) ++
    w.registry.sessions.entries.filterMap fun e => w.checkedOf e.1

theorem Holds.mem_checks {cfg : ServerConfig} {w : WsWorld} {hd : Holder} {c : Checked}
    {sid : String} {dev : Int} (h : Holds cfg w hd c sid dev) : c ∈ w.checks := by
  rw [WsWorld.checks, List.mem_append, List.mem_filterMap, List.mem_filterMap]
  cases hd with
  | task conn =>
    obtain ⟨t, ht, hs⟩ := h
    refine .inl ⟨⟨conn, t⟩, AList.mem_lookup_iff.mp ht, ?_⟩
    rcases hs with ⟨intent, device, hs, -⟩ | ⟨hs, -⟩
    · simp [hs, Stage.checked]
    · simp [hs, Stage.checked]
  | session s =>
    obtain ⟨rfl, x, hx, -, hc, -⟩ := h
    exact .inr ⟨⟨s, x⟩, AList.mem_lookup_iff.mp hx, hc⟩

/-- A test that implies `Undisturbed`: nothing at all is in flight where a row is bound, replaced
or consumed without being in hand. -/
def calm (w : WsWorld) : WsEvent → Bool
  | .proceed conn ans =>
    match w.tasks.lookup conn with
    | none => true
    | some t => match t.stage with
      | .prefiltering .. | .consuming _ none => w.checks.isEmpty
      | .consuming _ (some c) => match w.otp.byId.lookup c.row.id with
        | none => true
        | some row => decide (ans.now < row.expiresAt)
      | _ => true
  | .mintOtp .. => w.checks.isEmpty
  | _ => true

theorem undisturbed_of_calm (cfg : ServerConfig) (w : WsWorld) (e : WsEvent)
    (h : calm w e = true) : Undisturbed cfg w e := by
  have hnone : w.checks.isEmpty = true → ∀ hd c sid dev, ¬Holds cfg w hd c sid dev := by
    intro hempty hd c sid dev hh
    have hmem := hh.mem_checks
    rw [List.isEmpty_iff.mp hempty] at hmem
    cases hmem
  cases e with
  | proceed conn ans =>
    intro t ht
    simp only [calm, ht] at h
    obtain ⟨identity, stage⟩ := t
    cases stage with
    | prefiltering intent device code now =>
      intro id row _ _ _ _ hd c sid dev hh
      exact absurd hh (hnone h hd c sid dev)
    | consuming sid checked =>
      rcases checked with _ | c
      · intro _ dev hd c _ _
        exact hnone h hd c sid dev
      · intro row hrow
        simp only [hrow] at h
        exact of_decide_eq_true h
    | awaitHello => trivial
    | greeting => trivial
    | ready => trivial
    | creating intent device checked => trivial
    | replying msg andClose => trivial
    | closing => trivial
  | mintOtp host hash ttlSecs now => exact fun hd c sid => hnone h hd c sid host
  | connect => trivial
  | frame conn frame ans => trivial
  | dropReceiver conn => trivial
  | reapExpired now => trivial
  | forceDisconnect sid reason now => trivial

/-! ## A run that disturbs a row -/

/-- A server over `Crypto.transparent` whose devices all have the primary key 7. -/
def demoConfig : ServerConfig where
  crypto := .transparent
  otpPepper := utf8 "pepper"
  ttls := .default
  deviceId _ := 7

/-- The device row of the host of the demo. -/
def demoDevice : Device := ⟨7, "host-1", .active⟩

/-- Surroundings that answer for the host of the demo, one second after the epoch. -/
def demoAnswers : Answers where
  now := second
  serverTime := ""
  iceServers := .null
  ipLimit := none
  hostLimit := none
  viewerToken := false
  credential := .ok (some (demoDevice, 3600 * second))
  device := .ok (some demoDevice)
  blocked := .ok false

/-- The stored hash of the code `123456` under the pepper of the demo. -/
def demoHash : OtpHash :=
  ⟨utf8 "pepper" ++ (otpHashDomain ++ List.replicate otpSaltLen 0 ++ utf8 "123456"),
    List.replicate otpSaltLen 0, true⟩

/-- The host publishes its code; the host is connection 1, the viewers are connections 2 and 3. -/
def demoPrologue : List WsEvent :=
  let noDevice := { demoAnswers with device := .ok none }
  [.mintOtp 7 demoHash 900 0,
    .connect, .frame 1 (.text (.ok (.hello .host 1 ⟨"token"⟩))) noDevice, .proceed 1 demoAnswers,
    .connect, .frame 2 (.text (.ok (.hello .viewer 1 ⟨""⟩))) noDevice, .proceed 2 demoAnswers,
    .connect, .frame 3 (.text (.ok (.hello .viewer 1 ⟨""⟩))) noDevice, .proceed 3 demoAnswers]

/-- A viewer asks for a session with the code and passes the prefilter. -/
def demoIntent (conn : ConnId) (sid : String) : List WsEvent :=
  [.frame conn (.text (.ok (.sessionIntent sid 0 "host-1" .otp
      (.object [("otp", .string "123456")])))) demoAnswers,
    .proceed conn demoAnswers, .proceed conn demoAnswers]

/-- The host sends a message, whose handling takes one more lock section or none. -/
def demoHostSends (msg : SignalMessage) : List WsEvent :=
  [.frame 1 (.text (.ok msg)) { demoAnswers with device := .ok none }]

/-- One viewer is accepted and its row is consumed. -/
def calmRun : List WsEvent :=
  demoPrologue ++ demoIntent 2 "a" ++ demoHostSends (.sessionAccept "a" 2) ++
    [.proceed 1 demoAnswers]

/-- In a run without disturbance the accepted row is consumed. -/
theorem otp_consumed_once_calmRun : ∃ w,
    (wsSystem demoConfig).runFrom .empty calmRun = some w ∧ (1, "a") ∈ w.accepted ∧
      ConsumedOnce w := by
  refine ⟨_, rfl, by decide +kernel, ?_⟩
  exact otp_consumed_once (System.reachableVia_of_restrict (undisturbed_of_calm demoConfig)
    (System.reachable_of_runFrom (.init rfl)
      (show ((wsSystem demoConfig).restrict calm).runFrom .empty calmRun = some _ from rfl)))

/-- While the first viewer's session is pending, the second viewer passes the prefilter against
the same row and is told that the host is busy. The accept of the first session then finds no
row bound to it, and after its end the second viewer is accepted with the same code. -/
def rebindRun : List WsEvent :=
  demoPrologue ++ demoIntent 2 "a" ++ demoIntent 3 "b" ++ [.proceed 3 demoAnswers] ++
    demoHostSends (.sessionAccept "a" 2) ++ [.proceed 1 demoAnswers] ++
    demoHostSends (.sessionEnd "a" 3 "done") ++ demoIntent 3 "c" ++
    demoHostSends (.sessionAccept "c" 2) ++ [.proceed 1 demoAnswers]

/-- **A row behind two accepted sessions**: rebinding by an intent that is then refused as busy
leaves the row unconsumed by the first accept. -/
theorem otp_consumed_once_fails : ∃ w, (wsSystem demoConfig).Reachable w ∧
    w.accepted = [(1, "a"), (1, "c")] ∧ (1, "a") ∉ w.consumed ∧ ¬ConsumedOnce w := by
  refine ⟨_, System.reachable_of_runFrom (.init rfl)
    (show (wsSystem demoConfig).runFrom .empty rebindRun = some _ from rfl), rfl,
    by decide +kernel, fun h => ?_⟩
  exact absurd h.2 (by decide +kernel)

end RemoteLink.Server
