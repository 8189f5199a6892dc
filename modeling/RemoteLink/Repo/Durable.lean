import Mathlib.Logic.Function.Basic
import RemoteLink.Library.Runs
import RemoteLink.Repo.Memory

set_option autoImplicit false

/-!
# The registry file under concurrent calls

A mutating call works on the tables and takes its snapshot in two lock sections, and then writes the
snapshot to a temporary file that it moves over the registry file. The lock is not held while it
does, and all calls share one temporary file, so the snapshots need not arrive in the file in the
order in which they were taken.

## Main definitions

* `RegistryWorld`, `registryFileSystem` — the repository, the two files and the calls under way, and
  all interleavings of their steps.
* `Reopens` — the tables and counters of a repository are those of a registry text.
* `InOrder` — a snapshot is not written after a later one.

## Main results

* `load_snapshot` — a repository reopened from its own snapshot has the same tables and counters.
* `registry_durable` — when all calls returned well, and every snapshot was written in order, the
  registry file holds the tables of the repository.
* `registry_update_lost` — without the order a revocation is lost.
-/

namespace RemoteLink.Repo

open RemoteLink.Library

/-! ## Reopening -/

/-- Two repositories have the same devices, credentials and counters. -/
structure SameRegistry (r t : MemoryDeviceRepo) : Prop where
  nextDeviceId : t.nextDeviceId = r.nextDeviceId
  nextCredId : t.nextCredId = r.nextCredId
  devices : ∀ id, t.inner.devices.lookup id = r.inner.devices.lookup id
  credentials : ∀ id, t.inner.credentials.lookup id = r.inner.credentials.lookup id

namespace Store

/-- Writing credential rows fills the credential table and no other. -/
theorem foldl_putCredential (cs : List DeviceCredential) (s : Store) :
    (cs.foldl putCredential s).credentials =
        HashMap.fill DeviceCredential.id s.credentials cs ∧
      (cs.foldl putCredential s).devices = s.devices := by
  induction cs generalizing s with
  | nil => exact ⟨rfl, rfl⟩
  | cons c cs ih => exact ih (s.putCredential c)

/-- Writing device rows fills the device table and not that of the credentials. -/
theorem foldl_putDevice (ds : List Device) (s : Store) :
    (ds.foldl (fun s d => (s.putIndex d.publicId d.id).putDevice d) s).devices =
        HashMap.fill Device.id s.devices ds ∧
      (ds.foldl (fun s d => (s.putIndex d.publicId d.id).putDevice d) s).credentials =
        s.credentials := by
  induction ds generalizing s with
  | nil => exact ⟨rfl, rfl⟩
  | cons d ds ih => exact ih ((s.putIndex d.publicId d.id).putDevice d)

end Store

/-- **A repository reopened from its own snapshot** has the same tables and counters. -/
theorem load_snapshot (r : MemoryDeviceRepo) (path : String) :
    SameRegistry r (.load path r.snapshot) := by
  refine ⟨rfl, rfl, fun id => ?_, fun id => ?_⟩
  · show (List.foldl _ _ _ : Store).devices.lookup id = _
    rw [(Store.foldl_putCredential _ _).2, (Store.foldl_putDevice _ _).1]
    exact HashMap.lookup_fill_values r.inner.device_id id
  · show (List.foldl _ _ _ : Store).credentials.lookup id = _
    rw [(Store.foldl_putCredential _ _).1, (Store.foldl_putDevice _ _).2]
    exact HashMap.lookup_fill_values r.inner.credential_id id

/-! ## The files and the calls -/

/-- The text of a snapshot, with the number of calls that had altered the tables when it was taken.
The number only records history. -/
structure Copy (Text : Type) where
  text : Text
  taken : Nat

/-- Where a call stands: it has released the lock after its work on the tables, it has made the text
of a snapshot, it has written the temporary file, or it has returned. -/
inductive CallPhase (Text : Type) where
  | idle
  | altered
  | writing (copy : Copy Text)
  | written (copy : Copy Text)
  | returned (result : Except RepoError Unit)

/-- The repository, the registry file, the temporary file and the calls. The last two fields only
record history: how many calls have altered the tables, and which of these the latest written
snapshot had seen. -/
structure RegistryWorld (Text : Type) where
  repo : MemoryDeviceRepo
  file : Option (Copy Text)
  tmp : Option (Copy Text)
  calls : Nat → CallPhase Text
  alterations : Nat
  lastWritten : Option Nat

/-- A step of a call. -/
inductive RegistryStep (Text : Type) where
  | start (call : Nat) (op : RepoOp)
  | snapshot (call : Nat)
  | write (call : Nat)
  | writeFails (call : Nat) (reason : String) (left : Option (Copy Text))
  | rename (call : Nat)
  | renameFails (call : Nat) (reason : String)

namespace RegistryWorld

variable {Text : Type}

/-- A call moves on. -/
def advance (w : RegistryWorld Text) (call : Nat) (phase : CallPhase Text) : RegistryWorld Text :=
  { w with calls := Function.update w.calls call phase }

@[simp] theorem advance_self (w : RegistryWorld Text) (call : Nat) (phase : CallPhase Text) :
    (w.advance call phase).calls call = phase := Function.update_self _ _ _

theorem advance_other (w : RegistryWorld Text) {call other : Nat} (h : other ≠ call)
    (phase : CallPhase Text) : (w.advance call phase).calls other = w.calls other :=
  Function.update_of_ne h _ _

/-- The work of a call under the lock. -/
def startCall (w : RegistryWorld Text) (call : Nat) (op : RepoOp) : RegistryWorld Text :=
  match op.locked w.repo with
  | (.returns result, repo) => { w with repo := repo }.advance call (.returned result)
  | (.saves (), repo) =>
    { w with repo := repo, alterations := w.alterations + 1 }.advance call .altered

/-- The snapshot of a call that saves. -/
def takeSnapshot (encode : PersistSnapshot → Text) (w : RegistryWorld Text) (call : Nat) :
    RegistryWorld Text :=
  match w.repo.persistPath with
  | none => w.advance call (.returned (.ok ()))
  | some _ => w.advance call (.writing ⟨encode w.repo.snapshot, w.alterations⟩)

/-- The move of the temporary file over the registry file; there may be none any more. -/
def moveFile (w : RegistryWorld Text) (call : Nat) : RegistryWorld Text :=
  match w.tmp with
  | none => w.advance call
      (.returned (.error (.internal "replace registry: No such file or directory (os error 2)")))
  | some copy => { w with file := some copy, tmp := none }.advance call (.returned (.ok ()))

/-- A step of a call leaves the other calls where they are. -/
theorem startCall_other (w : RegistryWorld Text) {call other : Nat} (h : other ≠ call)
    (op : RepoOp) : (w.startCall call op).calls other = w.calls other := by
  unfold startCall
  split
  · exact advance_other _ h _
  · exact advance_other _ h _

theorem takeSnapshot_other (encode : PersistSnapshot → Text) (w : RegistryWorld Text)
    {call other : Nat} (h : other ≠ call) :
    (w.takeSnapshot encode call).calls other = w.calls other := by
  unfold takeSnapshot
  split
  · exact advance_other _ h _
  · exact advance_other _ h _

theorem moveFile_other (w : RegistryWorld Text) {call other : Nat} (h : other ≠ call) :
    (w.moveFile call).calls other = w.calls other := by
  unfold moveFile
  split
  · exact advance_other _ h _
  · exact advance_other _ h _

end RegistryWorld

variable {Text : Type}

/-- A registry text that reopens with the tables and counters of a repository. -/
def Reopens (decode : Text → Option PersistSnapshot) (path : String) (r : MemoryDeviceRepo)
    (text : Text) : Prop :=
  ∃ snap, decode text = some snap ∧ SameRegistry r (.load path snap)

/-- All interleavings of mutating calls on a repository that was opened from its file. -/
def registryFileSystem (encode : PersistSnapshot → Text) (decode : Text → Option PersistSnapshot)
    (path : String) : System (RegistryWorld Text) (RegistryStep Text) where
  init w := w.repo.persistPath = some path ∧
    (∃ copy, w.file = some copy ∧ copy.taken = 0 ∧ Reopens decode path w.repo copy.text) ∧
    (w.calls = fun _ => .idle) ∧ w.alterations = 0 ∧ w.lastWritten = none
  step w
    | .start call op =>
      match w.calls call with
      | .idle => if op.isSaved then some (w.startCall call op) else none
      | _ => none
    | .snapshot call =>
      match w.calls call with
      | .altered => some (w.takeSnapshot encode call)
      | _ => none
    | .write call =>
      match w.calls call with
      | .writing copy =>
        some ({ w with tmp := some copy, lastWritten := some copy.taken }.advance call
          (.written copy))
      | _ => none
    | .writeFails call reason left =>
      match w.calls call with
      | .writing _ =>
        some ({ w with tmp := left }.advance call
          (.returned (.error (.internal ("write registry tmp: " ++ reason)))))
      | _ => none
    | .rename call =>
      match w.calls call with
      | .written _ => some (w.moveFile call)
      | _ => none
    | .renameFails call reason =>
      match w.calls call with
      | .written _ =>
        some (w.advance call (.returned (.error (.internal ("replace registry: " ++ reason)))))
      | _ => none

/-- **A snapshot is not written after a later one.** -/
def InOrder (w : RegistryWorld Text) : RegistryStep Text → Prop
  | .write call => ∀ copy last, w.calls call = .writing copy → w.lastWritten = some last →
      last ≤ copy.taken
  | _ => True

/-! ## The invariant -/

section Invariant

variable {encode : PersistSnapshot → Text} {decode : Text → Option PersistSnapshot} {path : String}
  {w w' : RegistryWorld Text} {call : Nat}

/-- A call has failed. -/
def Failed (w : RegistryWorld Text) : Prop :=
  ∃ call e, w.calls call = .returned (.error e)

/-- A copy that has seen every alteration reopens as the repository. -/
def CopyOk (decode : Text → Option PersistSnapshot) (path : String) (w : RegistryWorld Text)
    (copy : Copy Text) : Prop :=
  copy.taken ≤ w.alterations ∧
    (copy.taken = w.alterations → Reopens decode path w.repo copy.text)

/-- A copy that has seen every alteration is on its way to the file. -/
def Pending (w : RegistryWorld Text) : Prop :=
  ∃ call, w.calls call = .altered ∨ ∃ copy, copy.taken = w.alterations ∧
    (w.calls call = .writing copy ∨ w.calls call = .written copy)

/-- **The files agree with the repository**, as long as no call has failed: the registry file has
seen every alteration or a copy that has is on its way, and the temporary file holds the latest copy
that was written. -/
structure RegistryOk (decode : Text → Option PersistSnapshot) (path : String)
    (w : RegistryWorld Text) : Prop where
  persistPath : w.repo.persistPath = some path
  file : ∃ f, w.file = some f ∧ CopyOk decode path w f ∧
    f.taken ≤ w.lastWritten.getD 0 ∧ (f.taken = w.alterations ∨ Pending w)
  tmp : ∀ last copy, w.lastWritten = some last → w.tmp = some copy →
    copy.taken = last ∧ CopyOk decode path w copy
  held : ∀ call copy, w.calls call = .writing copy ∨ w.calls call = .written copy →
    CopyOk decode path w copy
  written : ∀ call copy, w.calls call = .written copy →
    ∃ last, w.lastWritten = some last ∧ copy.taken ≤ last

/-- A phase in which a call holds no copy and owes none. -/
def CallPhase.isSettled : CallPhase Text → Bool
  | .idle | .returned _ => true
  | _ => false

/-- A call that owes nothing and returns changes nothing for the files. -/
theorem RegistryOk.settle (h : RegistryOk decode path w) (hcall : (w.calls call).isSettled = true)
    {phase : CallPhase Text} (hphase : phase.isSettled = true) :
    RegistryOk decode path (w.advance call phase) := by
  have hback : ∀ other p, p.isSettled = false →
      ((w.advance call phase).calls other = p ↔ w.calls other = p) := by
    intro other p hp
    by_cases hother : other = call
    · subst hother
      rw [w.advance_self]
      constructor
      · rintro rfl
        rw [hp] at hphase
        cases hphase
      · rintro rfl
        rw [hp] at hcall
        cases hcall
    · rw [w.advance_other hother]
  obtain ⟨hpath, ⟨f, hf, hfile, hlast, hcovered⟩, htmp, hheld, hwritten⟩ := h
  refine ⟨hpath, ⟨f, hf, hfile, hlast, hcovered.imp_right ?_⟩, htmp, ?_, ?_⟩
  · rintro ⟨c, halt | ⟨copy, htaken, hcopy⟩⟩
    · exact ⟨c, .inl ((hback c _ rfl).mpr halt)⟩
    · exact ⟨c, .inr ⟨copy, htaken, hcopy.imp (hback c _ rfl).mpr (hback c _ rfl).mpr⟩⟩
  · intro c copy hcopy
    exact hheld c copy (hcopy.imp (hback c _ rfl).mp (hback c _ rfl).mp)
  · intro c copy hcopy
    exact hwritten c copy ((hback c _ rfl).mp hcopy)

/-- A call that fails now has failed. -/
theorem failed_returned (e : RepoError) : Failed (w.advance call (.returned (.error e))) :=
  ⟨call, e, w.advance_self call _⟩

/-- A call that alters the tables owes the file a copy. -/
theorem RegistryOk.start (h : RegistryOk decode path w) (hidle : w.calls call = .idle)
    {op : RepoOp} (hsaved : op.isSaved = true) :
    RegistryOk decode path (w.startCall call op) ∨ Failed (w.startCall call op) := by
  unfold RegistryWorld.startCall
  rcases hlocked : op.locked w.repo with ⟨result | value, repo⟩
  · have hrepo : repo = w.repo := by
      rcases op.locked_cases w.repo with ⟨_, _, _, hsame⟩ | ⟨hsaves, -⟩
      · have hsame := hsame (.inl hsaved)
        rwa [hlocked] at hsame
      · rw [hlocked] at hsaves
        cases hsaves
    subst hrepo
    refine .inl (h.settle ?_ rfl)
    rw [hidle]
    rfl
  · have hnew : ∀ other p, (({ w with
        repo := repo, alterations := w.alterations + 1 } : RegistryWorld Text).advance call
          .altered).calls other = p → p ≠ .altered → w.calls other = p := by
      rintro other p rfl hp
      by_cases hother : other = call
      · subst hother
        exact absurd (RegistryWorld.advance_self _ _ _) hp
      · exact (RegistryWorld.advance_other _ hother _).symm
    have hcopy : ∀ copy, CopyOk decode path w copy → CopyOk decode path (({ w with
        repo := repo, alterations := w.alterations + 1 } : RegistryWorld Text).advance call
          .altered) copy := by
      intro copy hok
      refine ⟨Nat.le_succ_of_le hok.1, fun heq => ?_⟩
      exact absurd heq (Nat.ne_of_lt (Nat.lt_succ_of_le hok.1))
    obtain ⟨hpath, ⟨f, hf, hfile, hlast, -⟩, htmp, hheld, hwritten⟩ := h
    refine .inl ⟨?_, ⟨f, hf, hcopy f hfile, hlast, .inr ⟨call, .inl ?_⟩⟩, ?_, ?_, ?_⟩
    · show repo.persistPath = some path
      have hsame := op.locked_persistPath w.repo
      rw [hlocked] at hsame
      exact hsame.trans hpath
    · exact RegistryWorld.advance_self _ _ _
    · intro last copy hlast' hcopy'
      exact ⟨(htmp last copy hlast' hcopy').1, hcopy copy (htmp last copy hlast' hcopy').2⟩
    · rintro other copy hphase
      exact hcopy copy (hheld other copy
        (hphase.imp (fun h => hnew _ _ h nofun) fun h => hnew _ _ h nofun))
    · intro other copy hphase
      exact hwritten other copy (hnew _ _ hphase nofun)

/-- A snapshot has seen every alteration. -/
theorem RegistryOk.snapshot (hround : ∀ snap, decode (encode snap) = some snap)
    (h : RegistryOk decode path w) (haltered : w.calls call = .altered) :
    RegistryOk decode path (w.takeSnapshot encode call) := by
  obtain ⟨hpath, ⟨f, hf, hfile, hlast, hcovered⟩, htmp, hheld, hwritten⟩ := h
  unfold RegistryWorld.takeSnapshot
  rw [hpath]
  dsimp only
  have hnew : CopyOk decode path w ⟨encode w.repo.snapshot, w.alterations⟩ :=
    ⟨Nat.le_refl _, fun _ => ⟨_, hround _, load_snapshot _ _⟩⟩
  refine ⟨hpath, ⟨f, hf, hfile, hlast, 
    .inr ⟨call, .inr ⟨⟨encode w.repo.snapshot, w.alterations⟩, rfl, .inl ?_⟩⟩⟩, htmp, ?_, ?_⟩
  · exact w.advance_self _ _
  · intro other copy hcopy
    by_cases hother : other = call
    · subst hother
      rw [w.advance_self] at hcopy
      obtain rfl : _ = copy := CallPhase.writing.inj (hcopy.resolve_right nofun)
      exact hnew
    · rw [w.advance_other hother] at hcopy
      exact hheld other copy hcopy
  · intro other copy hcopy
    by_cases hother : other = call
    · subst hother
      rw [w.advance_self] at hcopy
      cases hcopy
    · rw [w.advance_other hother] at hcopy
      exact hwritten other copy hcopy

/-- A copy that is written in order becomes the latest. -/
theorem RegistryOk.write (h : RegistryOk decode path w) {copy : Copy Text}
    (hwriting : w.calls call = .writing copy)
    (horder : ∀ last, w.lastWritten = some last → last ≤ copy.taken) :
    RegistryOk decode path
      (({ w with tmp := some copy, lastWritten := some copy.taken } : RegistryWorld Text).advance call
        (.written copy)) := by
  obtain ⟨hpath, ⟨f, hf, hfile, hlast, hcovered⟩, htmp, hheld, hwritten⟩ := h
  have hok := hheld call copy (.inl hwriting)
  have hraise : w.lastWritten.getD 0 ≤ copy.taken := by
    rcases hlw : w.lastWritten with _ | last
    · exact Nat.zero_le _
    · exact horder last hlw
  refine ⟨hpath, ⟨f, hf, hfile, Nat.le_trans hlast hraise, hcovered.imp_right ?_⟩, ?_, ?_, ?_⟩
  · rintro ⟨other, hother | ⟨latest, htaken, hphase⟩⟩
    · refine ⟨other, .inl ((RegistryWorld.advance_other _ ?_ _).trans hother)⟩
      rintro rfl
      rw [hwriting] at hother
      cases hother
    · by_cases hother : other = call
      · subst hother
        rw [hwriting] at hphase
        obtain rfl : copy = latest := CallPhase.writing.inj (hphase.resolve_right nofun)
        exact ⟨other, .inr ⟨copy, htaken, .inr (RegistryWorld.advance_self _ _ _)⟩⟩
      · refine ⟨other, .inr ⟨latest, htaken, ?_⟩⟩
        rw [RegistryWorld.advance_other _ hother]
        exact hphase
  · intro last copy' hlast' hcopy'
    obtain rfl := Option.some.inj hlast'
    obtain rfl := Option.some.inj hcopy'
    exact ⟨rfl, hok⟩
  · intro other copy' hphase
    by_cases hother : other = call
    · subst hother
      rw [RegistryWorld.advance_self] at hphase
      obtain rfl : copy = copy' := CallPhase.written.inj (hphase.resolve_left nofun)
      exact hok
    · rw [RegistryWorld.advance_other _ hother] at hphase
      exact hheld other copy' hphase
  · intro other copy' hphase
    by_cases hother : other = call
    · subst hother
      rw [RegistryWorld.advance_self] at hphase
      obtain rfl := CallPhase.written.inj hphase
      exact ⟨_, rfl, Nat.le_refl _⟩
    · rw [RegistryWorld.advance_other _ hother] at hphase
      obtain ⟨last, hlw, hle⟩ := hwritten other copy' hphase
      rw [hlw] at hraise
      exact ⟨_, rfl, Nat.le_trans hle hraise⟩

/-- The temporary file replaces the registry file, or there is none and the call fails. -/
theorem RegistryOk.rename (h : RegistryOk decode path w) {copy : Copy Text}
    (hcall : w.calls call = .written copy) :
    RegistryOk decode path (w.moveFile call) ∨ Failed (w.moveFile call) := by
  unfold RegistryWorld.moveFile
  rcases htmpFile : w.tmp with _ | latest
  · exact .inr (failed_returned _)
  obtain ⟨hpath, ⟨f, hf, hfile, hlast, hcovered⟩, htmp, hheld, hwritten⟩ := h
  obtain ⟨last, hlw, hle⟩ := hwritten call copy hcall
  obtain ⟨htaken, hlatest⟩ := htmp last latest hlw htmpFile
  rw [hlw] at hlast
  have hback : ∀ other p, (({ w with
      file := some latest, tmp := none } : RegistryWorld Text).advance call
        (.returned (.ok ()))).calls other = p → p ≠ .returned (.ok ()) → w.calls other = p := by
    rintro other p rfl hp
    by_cases hother : other = call
    · subst hother
      exact absurd (RegistryWorld.advance_self _ _ _) hp
    · exact (RegistryWorld.advance_other _ hother _).symm
  refine .inl ⟨hpath, ⟨latest, rfl, hlatest, ?_, ?_⟩, ?_, ?_, ?_⟩
  · show latest.taken ≤ w.lastWritten.getD 0
    rw [hlw, htaken]
    exact Nat.le_refl _
  · show latest.taken = w.alterations ∨ _
    have hcover : w.alterations ≤ latest.taken → latest.taken = w.alterations :=
      Nat.le_antisymm hlatest.1
    rcases hcovered with hseen | ⟨other, hother | ⟨seen, hseen, hphase⟩⟩
    · rw [← hseen] at hcover ⊢
      exact .inl (hcover (htaken ▸ hlast))
    · refine .inr ⟨other, .inl ((RegistryWorld.advance_other _ ?_ _).trans hother)⟩
      rintro rfl
      rw [hcall] at hother
      cases hother
    · by_cases hother : other = call
      · subst hother
        rw [hcall] at hphase
        obtain rfl : copy = seen := CallPhase.written.inj (hphase.resolve_left nofun)
        exact .inl (hcover (by rw [← hseen, htaken]; exact hle))
      · refine .inr ⟨other, .inr ⟨seen, hseen, ?_⟩⟩
        rw [RegistryWorld.advance_other _ hother]
        exact hphase
  · intro last' copy' _ hcopy'
    cases hcopy'
  · intro other copy' hphase
    exact hheld other copy' (hphase.imp (fun h => hback _ _ h nofun) fun h => hback _ _ h nofun)
  · intro other copy' hphase
    exact hwritten other copy' (hback _ _ hphase nofun)

/-- A failed call stays failed: only a call under way moves. -/
theorem Failed.of_other (h : Failed w) (hcall : ∀ e, w.calls call ≠ .returned (.error e))
    (hother : ∀ other, other ≠ call → w'.calls other = w.calls other) : Failed w' := by
  obtain ⟨c, e, hc⟩ := h
  refine ⟨c, e, (hother c ?_).trans hc⟩
  rintro rfl
  exact hcall e hc

/-- **The step lemma**: the files go on agreeing with the repository, or a call has failed. -/
theorem RegistryOk.step (hround : ∀ snap, decode (encode snap) = some snap)
    (h : RegistryOk decode path w ∨ Failed w) {e : RegistryStep Text} (horder : InOrder w e)
    (hstep : (registryFileSystem encode decode path).step w e = some w') :
    RegistryOk decode path w' ∨ Failed w' := by
  cases e with
  | start call op =>
    rcases hcall : w.calls call with _ | _ | _ | _ | _ <;> simp only [registryFileSystem, hcall,
      reduceCtorEq] at hstep
    obtain ⟨hsaved, hw⟩ := Option.ite_none_right_eq_some.mp hstep
    obtain rfl := Option.some.inj hw
    rcases h with h | h
    · exact h.start hcall hsaved
    · exact .inr (h.of_other (by simp [hcall]) fun _ hother => w.startCall_other hother op)
  | snapshot call =>
    rcases hcall : w.calls call with _ | _ | _ | _ | _ <;> simp only [registryFileSystem, hcall,
      reduceCtorEq] at hstep
    obtain rfl := Option.some.inj hstep
    rcases h with h | h
    · exact .inl (h.snapshot hround hcall)
    · exact .inr (h.of_other (by simp [hcall]) fun _ hother =>
        w.takeSnapshot_other encode hother)
  | write call =>
    rcases hcall : w.calls call with _ | _ | copy | _ | _ <;> simp only [registryFileSystem, hcall,
      reduceCtorEq] at hstep
    obtain rfl := Option.some.inj hstep
    rcases h with h | h
    · exact .inl (h.write hcall fun last => horder copy last hcall)
    · exact .inr (h.of_other (by simp [hcall]) fun _ hother =>
        RegistryWorld.advance_other _ hother _)
  | writeFails call reason left =>
    rcases hcall : w.calls call with _ | _ | copy | _ | _ <;> simp only [registryFileSystem, hcall,
      reduceCtorEq] at hstep
    obtain rfl := Option.some.inj hstep
    exact .inr (failed_returned _)
  | rename call =>
    rcases hcall : w.calls call with _ | _ | _ | copy | _ <;> simp only [registryFileSystem, hcall,
      reduceCtorEq] at hstep
    obtain rfl := Option.some.inj hstep
    rcases h with h | h
    · exact h.rename hcall
    · exact .inr (h.of_other (by simp [hcall]) fun _ hother => w.moveFile_other hother)
  | renameFails call reason =>
    rcases hcall : w.calls call with _ | _ | _ | copy | _ <;> simp only [registryFileSystem, hcall,
      reduceCtorEq] at hstep
    obtain rfl := Option.some.inj hstep
    exact .inr (failed_returned _)

/-- A repository that was just opened agrees with its file. -/
theorem RegistryOk.init (h : (registryFileSystem encode decode path).init w) :
    RegistryOk decode path w := by
  obtain ⟨hpath, ⟨copy, hfile, htaken, hreopens⟩, hcalls, halterations, hwritten⟩ := h
  have hidle : ∀ call, w.calls call = .idle := fun call => by rw [hcalls]
  refine ⟨hpath, ⟨copy, hfile, ⟨by omega, fun _ => hreopens⟩, by omega, .inl (by omega)⟩, ?_, ?_, ?_⟩
  · intro last copy' hlast
    rw [hwritten] at hlast
    cases hlast
  · intro call copy' hcall
    rw [hidle] at hcall
    exact hcall.elim nofun nofun
  · intro call copy' hcall
    rw [hidle] at hcall
    cases hcall

end Invariant

/-- **The durable registry loses no update** when snapshots are written in order: once every call
has returned well the registry file reopens with the devices, credentials and counters of the
repository.

**Proof sketch.** Until a call fails, either the registry file has seen every alteration of the
tables, or a call that took its snapshot after the last one is still under way (`RegistryOk`). When
no call is under way it is the file. -/
theorem registry_durable (encode : PersistSnapshot → Text) (decode : Text → Option PersistSnapshot)
    (path : String) (hround : ∀ snap, decode (encode snap) = some snap) {w : RegistryWorld Text}
    (hw : (registryFileSystem encode decode path).ReachableVia InOrder w)
    (hall : ∀ call, w.calls call = .idle ∨ w.calls call = .returned (.ok ())) :
    ∃ copy, w.file = some copy ∧ Reopens decode path w.repo copy.text := by
  have hok : RegistryOk decode path w ∨ Failed w :=
    hw.invariant (fun w => RegistryOk decode path w ∨ Failed w) (fun _ h => .inl (.init h))
      fun _ _ _ h hc hs => h.elim (fun h => RegistryOk.step hround (.inl h) hc hs)
        fun h => RegistryOk.step hround (.inr h) hc hs
  rcases hok with hok | ⟨call, e, hfailed⟩
  · obtain ⟨f, hf, hcopy, -, hseen | ⟨call, hpending⟩⟩ := hok.file
    · exact ⟨f, hf, hcopy.2 hseen⟩
    · rcases hall call with hidle | hreturned
      · rw [hidle] at hpending
        obtain h | ⟨copy, -, h | h⟩ := hpending <;> cases h
      · rw [hreturned] at hpending
        obtain h | ⟨copy, -, h | h⟩ := hpending <;> cases h
  · rcases hall call with hidle | hreturned
    · rw [hidle] at hfailed
      cases hfailed
    · rw [hreturned] at hfailed
      cases hfailed

/-! ## Runs -/

/-- A repository with one device, opened from its file. -/
def demoRegistry (lastSeenAt : Option Server.Time) : MemoryDeviceRepo :=
  .load "registry.json" ⟨1, 0,
    [⟨1, "1234567897", none, [], none, none, 0, lastSeenAt, .active, none⟩], []⟩

/-- The text of its file. -/
def demoRegistryText (lastSeenAt : String) : String :=
  "\x7b\n  \"next_device_id\": 1,\n  \"next_cred_id\": 0,\n  \"devices\": [\n    \x7b\n" ++
  "      \"id\": 1,\n      \"public_id\": \"1234567897\",\n      \"display_name\": null,\n" ++
  "      \"public_key\": [],\n      \"password_hash\": null,\n" ++
  "      \"protocol_version_last\": null,\n      \"created_at\": \"1970-01-01T00:00:00Z\",\n" ++
  "      \"last_seen_at\": " ++ lastSeenAt ++ ",\n      \"status\": \"active\",\n" ++
  "      \"deleted_at\": null\n    \x7d\n  ],\n  \"credentials\": []\n\x7d"

/-- The text before the device was seen, and after. -/
def demoTexts : String × String :=
  (demoRegistryText "null", demoRegistryText "\"1970-01-01T00:00:00Z\"")

/-- The text of the demo registry; another snapshot stands for its own text. -/
def demoEncode (snap : PersistSnapshot) : String ⊕ PersistSnapshot :=
  if snap = (demoRegistry none).snapshot then .inl demoTexts.1
  else if snap = (demoRegistry (some 0)).snapshot then .inl demoTexts.2
  else .inr snap

def demoDecode : String ⊕ PersistSnapshot → Option PersistSnapshot
  | .inl text =>
    if text = demoTexts.1 then some (demoRegistry none).snapshot
    else if text = demoTexts.2 then some (demoRegistry (some 0)).snapshot
    else none
  | .inr snap => some snap

theorem demoDecode_encode (snap : PersistSnapshot) : demoDecode (demoEncode snap) = some snap := by
  have htexts : demoTexts.2 ≠ demoTexts.1 := by decide +kernel
  unfold demoEncode
  split_ifs with h₁ h₂
  · simp only [demoDecode, h₁, ↓reduceIte]
  · simp only [demoDecode, h₂, htexts, ↓reduceIte]
  · rfl

/-- Two calls that overlap, the first to take its snapshot writing first. -/
def orderedRun (Text : Type) : List (RegistryStep Text) :=
  [.start 0 (.touchLastSeen 1 0), .start 1 (.revokeAllForDevice 1 0), .snapshot 0, .write 0,
    .snapshot 1, .rename 0, .write 1, .rename 1]

/-- Whether a step keeps the order of the snapshots. -/
def inOrder (w : RegistryWorld Text) : RegistryStep Text → Bool
  | .write call =>
    match w.calls call, w.lastWritten with
    | .writing copy, some last => decide (last ≤ copy.taken)
    | _, _ => true
  | _ => true

theorem inOrder_of_test (w : RegistryWorld Text) (e : RegistryStep Text) (h : inOrder w e = true) :
    InOrder w e := by
  cases e with
  | write call =>
    intro copy last hcall hlast
    simp only [inOrder, hcall, hlast] at h
    exact of_decide_eq_true h
  | _ => trivial

/-- Both calls return, and the file holds what they did. -/
theorem registry_durable_orderedRun : ∃ w copy,
    (registryFileSystem demoEncode demoDecode "registry.json").ReachableVia InOrder w ∧
    w.repo.inner.devices.lookup 1 =
      some ⟨1, "1234567897", none, [], none, none, 0, some 0, .active, none⟩ ∧
    w.file = some copy ∧ Reopens demoDecode "registry.json" w.repo copy.text := by
  have hinit : ((registryFileSystem demoEncode demoDecode "registry.json").restrict
      inOrder).Reachable ⟨demoRegistry none, some ⟨demoEncode (demoRegistry none).snapshot, 0⟩, none,
        fun _ => .idle, 0, none⟩ :=
    .init ⟨rfl, ⟨_, rfl, rfl, _, demoDecode_encode (demoRegistry none).snapshot,
      load_snapshot _ _⟩, rfl, rfl, rfl⟩
  have hrun : ((registryFileSystem demoEncode demoDecode "registry.json").restrict
      inOrder).runFrom ⟨demoRegistry none, some ⟨demoEncode (demoRegistry none).snapshot, 0⟩, none,
        fun _ => .idle, 0, none⟩ (orderedRun _) = some _ := rfl
  have hw := System.reachableVia_of_restrict inOrder_of_test (System.reachable_of_runFrom hinit hrun)
  obtain ⟨copy, hcopy, hreopens⟩ := registry_durable demoEncode demoDecode "registry.json"
    demoDecode_encode hw (by
      rintro (_ | _ | call)
      · exact .inr rfl
      · exact .inr rfl
      · exact .inl rfl)
  exact ⟨_, copy, hw, rfl, hcopy, hreopens⟩

/-- Two calls on a repository with a live credential; the snapshot without the revocation is written
last. -/
def lostRun (Text : Type) : List (RegistryStep Text) :=
  [.start 0 (.touchLastSeen 1 5), .snapshot 0, .start 1 (.revokeCredential 1 6), .snapshot 1,
    .write 1, .rename 1, .write 0, .rename 0]

/-- **A revocation is lost** when the snapshot of a call that does not know of it is written after
the revocation's own. -/
theorem registry_update_lost :
    ¬∀ w, (registryFileSystem id some "registry.json").Reachable w →
      (∀ call, w.calls call = .idle ∨ w.calls call = .returned (.ok ())) →
        ∃ copy, w.file = some copy ∧ Reopens some "registry.json" w.repo copy.text := by
  intro hclaim
  have hinit : (registryFileSystem id some "registry.json").Reachable
      ⟨demoRepo, some ⟨demoRepo.snapshot, 0⟩, none, fun _ => .idle, 0, none⟩ :=
    .init ⟨rfl, ⟨_, rfl, rfl, _, rfl, load_snapshot _ _⟩, rfl, rfl, rfl⟩
  have hrun : (registryFileSystem id some "registry.json").runFrom
      ⟨demoRepo, some ⟨demoRepo.snapshot, 0⟩, none, fun _ => .idle, 0, none⟩ (lostRun _) =
        some _ := rfl
  obtain ⟨copy, hcopy, snap, hsnap, hsame⟩ := hclaim _ (System.reachable_of_runFrom hinit hrun) (by
    rintro (_ | _ | call)
    · exact .inr rfl
    · exact .inr rfl
    · exact .inl rfl)
  obtain rfl := Option.some.inj hcopy
  obtain rfl := Option.some.inj hsnap
  have hrow := congrArg (Option.map DeviceCredential.revokedAt) (hsame.credentials 1)
  revert hrow
  decide +kernel

end RemoteLink.Repo
