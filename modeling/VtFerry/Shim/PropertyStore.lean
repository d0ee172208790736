import Mathlib.Data.Finset.Card
import Mathlib.Data.List.Nodup
import VtFerry.Shim.Properties

/-!
# Session properties in the guest

An encode session keeps the properties the worker has taken in sixteen slots,
under keys of at most 63 bytes, for `VTSessionCopyProperty`.  The slot is
looked for after the worker acted: a session behaves as a map, with errors
that mean that nothing was applied, exactly as long as the keys the worker
takes are whole in their slots and there are at most sixteen of them.
-/

namespace VtFerry

open Execution List

namespace Shim

open SetPropertyPayload (payloadCstr)

/-- `vtf_vt_session_property`. -/
structure StoredProperty where
  key : List UInt8
  value : PropertyValue
  deriving DecidableEq, Repr

/-- The part of `vtf_vt_session` about properties. -/
structure PropertySession where
  hostId : UInt64
  invalidated : Bool
  stored : List StoredProperty
  deriving DecidableEq, Repr

/-- `stored_properties.len()`. -/
def propertySlots : Nat := 16

/-- A call of `VTSessionSetProperty`, and whether the worker applies the value
if it is asked to. -/
structure SetPropertyCall where
  keyProxyId : UInt64
  valueProxyId : UInt64
  key : List UInt8
  value : PropertyValue
  accepted : Bool
  deriving DecidableEq, Repr

def StoredProperty.name (stored : StoredProperty) : List UInt8 :=
  payloadCstr stored.key

/-- The value of the first slot with the key is replaced. -/
def replaceProperty (key : List UInt8) (value : PropertyValue) :
    List StoredProperty → List StoredProperty
  | [] => []
  | stored :: later =>
    if stored.name = key then { stored with value := value } :: later
    else stored :: replaceProperty key value later

namespace PropertySession

/-! `utf8` is what `String::from_utf8` accepts. -/

variable (utf8 : List UInt8 → Bool)

/-- The end of `VTSessionSetProperty`, once the worker has the value. -/
def place (session : PropertySession) (key : List UInt8)
    (value : PropertyValue) : PropertySession × Int32 :=
  if key ∈ session.stored.map StoredProperty.name then
    ({ session with stored := replaceProperty key value session.stored }, 0)
  else if session.stored.length ≥ propertySlots then (session, -12900)
  else
    ({ session with
       stored := session.stored ++ [⟨fillKeyBytes 64 key, value⟩] }, 0)

/-- `VTSessionSetProperty` for an encode session and arguments that are not
null. -/
def setProperty (session : PropertySession) (call : SetPropertyCall) :
    PropertySession × Int32 :=
  if session.invalidated then (session, -12903)
  else if !utf8 call.key then (session, -12902)
  else
    match vtfFillSetPropertyPayload session.hostId call.keyProxyId
        call.valueProxyId call.key call.value with
    | .error status => (session, status)
    | .ok _ =>
      if !call.accepted then (session, -12902)
      else session.place call.key call.value

def copyProperty (session : PropertySession) (key : List UInt8) :
    Except Int32 PropertyValue :=
  if session.invalidated then .error (-12903)
  else if !utf8 key then .error (-12902)
  else
    match session.stored.find? (·.name = key) with
    | some stored => .ok stored.value
    | none => .error (-12900)

def Applies (session : PropertySession) (call : SetPropertyCall) : Prop :=
  session.invalidated = false ∧ utf8 call.key = true ∧
    (vtfFillSetPropertyPayload session.hostId call.keyProxyId
      call.valueProxyId call.key call.value).isOk = true ∧
    call.accepted = true

instance (session : PropertySession) (call : SetPropertyCall) :
    Decidable (session.Applies utf8 call) :=
  inferInstanceAs (Decidable (_ ∧ _ ∧ _ ∧ _))

end PropertySession

/-- A session and the calls on it with their results, latest first. -/
structure PropertyRun where
  session : PropertySession
  log : List (SetPropertyCall × Int32)
  deriving DecidableEq, Repr

namespace PropertyRun

variable (utf8 : List UInt8 → Bool)

def step (state : PropertyRun) (call : SetPropertyCall) : PropertyRun :=
  let result := state.session.setProperty utf8 call
  ⟨result.1, (call, result.2) :: state.log⟩

/-- A session that was just created, or was invalidated right away. -/
def created (hostId : UInt64) (invalidated : Bool) : PropertyRun :=
  ⟨⟨hostId, invalidated, []⟩, []⟩

/-- The value of the last successful call for the key. -/
def lastSet (log : List (SetPropertyCall × Int32)) (key : List UInt8) :
    Option PropertyValue :=
  (log.find? fun entry => entry.1.key = key ∧ entry.2 = 0).map (·.1.value)

/-- Errors mean that nothing was applied, and every copy gives the value last
set under its key. -/
structure Faithful (state : PropertyRun) : Prop where
  errors : ∀ entry ∈ state.log, entry.2 ≠ 0 → ¬ state.session.Applies utf8 entry.1
  copies : ∀ key, (state.session.copyProperty utf8 key).toOption = lastSet state.log key

end PropertyRun

/-! ## Keys and slots -/

/-- The key fits its slot and is found there again. -/
def WholeKey (key : List UInt8) : Prop :=
  key.length ≤ 63 ∧ 0 ∉ key

instance (key : List UInt8) : Decidable (WholeKey key) :=
  inferInstanceAs (Decidable (_ ∧ _))

variable {key : List UInt8}

theorem name_of_whole (whole : WholeKey key) : payloadCstr (fillKeyBytes 64 key) = key := by
  rw [payloadCstr_fillKeyBytes whole.2, take_of_length_le whole.1]

theorem payloadCstr_whole (key : List UInt8) : WholeKey (payloadCstr (fillKeyBytes 64 key)) := by
  have cut : payloadCstr (fillKeyBytes 64 key) = (key.take 63).takeWhile (· ≠ 0) := by
    rw [payloadCstr, fillKeyBytes, takeWhile_append]
    split
    next all =>
      have whole := takeWhile_prefix (l := key.take 63) (· ≠ 0)
      rw [takeWhile_replicate, if_neg (by decide), append_nil]
      exact (whole.eq_of_length all).symm
    · rfl
  rw [cut]
  constructor
  · have part := takeWhile_prefix (l := key.take 63) (· ≠ 0)
    have length := part.length_le
    rw [length_take] at length
    omega
  · intro zero
    have nonzero := all_takeWhile (l := key.take 63) (p := (· ≠ 0))
    exact absurd rfl (of_decide_eq_true (all_eq_true.mp nonzero 0 zero))

def storedValue (stored : List StoredProperty) (key : List UInt8) :
    Option PropertyValue :=
  (stored.find? (·.name = key)).map (·.value)

theorem storedValue_cons (first : StoredProperty) (later : List StoredProperty) (key : List UInt8) :
    storedValue (first :: later) key =
      if first.name = key then some first.value
      else storedValue later key := by
  rw [storedValue, find?_cons]
  by_cases here : first.name = key
  · simp [here]
  · simp [here, storedValue]

theorem storedValue_isSome {stored : List StoredProperty} :
    (storedValue stored key).isSome = true ↔
      key ∈ stored.map StoredProperty.name := by
  rw [storedValue, Option.isSome_map, find?_isSome, mem_map]
  simp only [decide_eq_true_eq]

theorem names_replaceProperty (key : List UInt8) (value : PropertyValue)
    (stored : List StoredProperty) :
    (replaceProperty key value stored).map StoredProperty.name =
      stored.map StoredProperty.name := by
  induction stored with
  | nil => rfl
  | cons first later induction =>
    rw [replaceProperty]
    split
    · rfl
    · rw [map_cons, induction, map_cons]

theorem storedValue_replaceProperty {stored : List StoredProperty} (value : PropertyValue)
    (there : key ∈ stored.map StoredProperty.name) (other : List UInt8) :
    storedValue (replaceProperty key value stored) other =
      if other = key then some value else storedValue stored other := by
  induction stored with
  | nil => cases there
  | cons first later induction =>
    rw [replaceProperty, storedValue_cons first]
    by_cases here : first.name = key
    · have name : ({ first with value := value } : StoredProperty).name =
          key := here
      rw [if_pos here, storedValue_cons, name, here]
      by_cases same : other = key
      · rw [if_pos same.symm, if_pos same]
      · rw [if_neg (Ne.symm same), if_neg same, if_neg (Ne.symm same)]
    · have behind : key ∈ later.map StoredProperty.name :=
        (mem_cons.mp there).resolve_left (Ne.symm here)
      rw [if_neg here, storedValue_cons, induction behind]
      by_cases found : first.name = other
      · have differs : other ≠ key := by
          rw [← found]
          exact here
        rw [if_pos found, if_neg differs, if_pos found]
      · rw [if_neg found, if_neg found]

theorem storedValue_append {stored : List StoredProperty} (added : StoredProperty)
    (fresh : added.name ∉ stored.map StoredProperty.name)
    (other : List UInt8) :
    storedValue (stored ++ [added]) other =
      if other = added.name then some added.value
      else storedValue stored other := by
  induction stored with
  | nil =>
    rw [nil_append, storedValue_cons]
    by_cases same : added.name = other
    · rw [if_pos same, if_pos same.symm]
    · rw [if_neg same, if_neg (Ne.symm same)]
  | cons first later induction =>
    obtain ⟨here, behind⟩ := not_or.mp (mt mem_cons.mpr fresh)
    rw [cons_append, storedValue_cons, storedValue_cons, induction behind]
    by_cases found : first.name = other
    · have differs : other ≠ added.name := by
        rw [← found]
        exact Ne.symm here
      rw [if_pos found, if_pos found, if_neg differs]
    · rw [if_neg found, if_neg found]

namespace PropertySession

variable {utf8 : List UInt8 → Bool} {session : PropertySession}
  {call : SetPropertyCall}

theorem toOption_copyProperty (key : List UInt8) :
    (session.copyProperty utf8 key).toOption =
      if session.invalidated = false ∧ utf8 key = true then
        storedValue session.stored key else none := by
  unfold copyProperty storedValue
  cases session.invalidated with
  | true => rfl
  | false =>
    cases utf8 key with
    | false => rfl
    | true =>
      cases session.stored.find? (·.name = key) with
      | none => rfl
      | some stored => rfl

theorem setProperty_of_applies (applies : session.Applies utf8 call) :
    session.setProperty utf8 call = session.place call.key call.value := by
  obtain ⟨valid, text, built, accepted⟩ := applies
  unfold setProperty
  rw [valid, text, accepted]
  cases outcome : vtfFillSetPropertyPayload session.hostId call.keyProxyId
      call.valueProxyId call.key call.value with
  | error status =>
    rw [outcome] at built
    cases built
  | ok fields => rfl

theorem error_of_fill {sessionId keyProxyId valueProxyId : UInt64} {value : PropertyValue}
    {status : Int32}
    (failed : vtfFillSetPropertyPayload sessionId keyProxyId valueProxyId key
      value = .error status) : status = -12902 := by
  unfold vtfFillSetPropertyPayload at failed
  dsimp only at failed
  split at failed
  · cases failed
  · split at failed
    · cases failed
      rfl
    · cases failed
  · cases failed
  · cases failed
    rfl
  · cases failed
  · cases failed
    rfl
  · cases failed
    rfl
  · cases failed

theorem setProperty_of_not_applies (refused : ¬ session.Applies utf8 call) :
    ∃ status, status ≠ 0 ∧ session.setProperty utf8 call = (session, status) := by
  have nonzero : (-12903 : Int32) ≠ 0 ∧ (-12902 : Int32) ≠ 0 := by decide
  unfold Applies at refused
  unfold setProperty
  cases valid : session.invalidated with
  | true => exact ⟨_, nonzero.1, rfl⟩
  | false =>
    cases text : utf8 call.key with
    | false => exact ⟨_, nonzero.2, rfl⟩
    | true =>
      cases outcome : vtfFillSetPropertyPayload session.hostId
          call.keyProxyId call.valueProxyId call.key call.value with
      | error status =>
        rw [error_of_fill outcome]
        exact ⟨_, nonzero.2, rfl⟩
      | ok fields =>
        cases accepted : call.accepted with
        | false => exact ⟨_, nonzero.2, rfl⟩
        | true =>
          rw [valid, outcome, text, accepted] at refused
          exact absurd ⟨rfl, rfl, rfl, rfl⟩ refused

theorem place_of_mem (value : PropertyValue)
    (there : key ∈ session.stored.map StoredProperty.name) :
    session.place key value =
      ({ session with stored := replaceProperty key value session.stored }, 0) :=
  if_pos there

theorem place_of_room (value : PropertyValue)
    (fresh : key ∉ session.stored.map StoredProperty.name)
    (room : session.stored.length < propertySlots) :
    session.place key value =
      ({ session with
         stored := session.stored ++ [⟨fillKeyBytes 64 key, value⟩] }, 0) :=
  (if_neg fresh).trans (if_neg (Nat.not_le.mpr room))

theorem place_of_full (value : PropertyValue)
    (fresh : key ∉ session.stored.map StoredProperty.name)
    (full : propertySlots ≤ session.stored.length) :
    session.place key value = (session, -12900) :=
  (if_neg fresh).trans (if_pos full)

end PropertySession

/-! ## Runs -/

namespace PropertyRun

variable {utf8 : List UInt8 → Bool}

/-- The keys of the calls that the worker applies. -/
def appliedKeys (utf8 : List UInt8 → Bool) (session : PropertySession)
    (calls : List SetPropertyCall) : Finset (List UInt8) :=
  ((calls.filter fun call => session.Applies utf8 call).map (·.key)).toFinset

variable {session : PropertySession} {calls : List SetPropertyCall}

theorem mem_appliedKeys :
    key ∈ appliedKeys utf8 session calls ↔
      ∃ call ∈ calls, session.Applies utf8 call ∧ call.key = key := by
  simp only [appliedKeys, mem_toFinset, mem_map, mem_filter,
    decide_eq_true_eq, and_assoc]

/-- The slots are enough for the calls that the worker applies. -/
def Storable (utf8 : List UInt8 → Bool) (session : PropertySession)
    (calls : List SetPropertyCall) : Prop :=
  (∀ key ∈ appliedKeys utf8 session calls, WholeKey key) ∧
    (appliedKeys utf8 session calls).card ≤ propertySlots

theorem Storable.perm {others : List SetPropertyCall} (storable : Storable utf8 session calls)
    (same : calls.Perm others) :
    Storable utf8 session others := by
  have keys : appliedKeys utf8 session others =
      appliedKeys utf8 session calls := by
    ext key
    simp only [mem_appliedKeys, same.mem_iff]
  rwa [Storable, keys]

variable {call : SetPropertyCall}

theorem Storable.of_cons (storable : Storable utf8 session (call :: calls)) :
    Storable utf8 session calls := by
  have fewer : appliedKeys utf8 session calls ⊆ appliedKeys utf8 session (call :: calls) := by
    intro key applied
    obtain ⟨earlier, called, rest⟩ := mem_appliedKeys.mp applied
    exact mem_appliedKeys.mpr ⟨earlier, mem_cons_of_mem call called, rest⟩
  exact ⟨fun key applied => storable.1 key (fewer applied),
    (Finset.card_le_card fewer).trans storable.2⟩

theorem lastSet_cons (call : SetPropertyCall) (status : Int32)
    (log : List (SetPropertyCall × Int32)) (key : List UInt8) :
    lastSet ((call, status) :: log) key =
      if call.key = key ∧ status = 0 then some call.value
      else lastSet log key := by
  rw [lastSet, find?_cons]
  by_cases here : call.key = key ∧ status = 0
  · simp [here]
  · simp [here, lastSet]

theorem lastSet_isSome {log : List (SetPropertyCall × Int32)} :
    (lastSet log key).isSome = true ↔ ∃ entry ∈ log, entry.1.key = key ∧ entry.2 = 0 := by
  rw [lastSet, Option.isSome_map, find?_isSome]
  simp only [decide_eq_true_eq]

/-- What holds of a session's slots whatever the calls were. -/
structure Slotted (base : PropertySession) (state : PropertyRun) : Prop where
  same : state.session = { base with stored := state.session.stored }
  few : state.session.stored.length ≤ propertySlots
  whole : ∀ name ∈ state.session.stored.map StoredProperty.name, WholeKey name

variable {base : PropertySession} {state : PropertyRun}

theorem Slotted.step (slotted : Slotted base state) (call : SetPropertyCall) :
    Slotted base (state.step utf8 call) := by
  unfold PropertyRun.step
  by_cases applies : state.session.Applies utf8 call
  · rw [PropertySession.setProperty_of_applies applies]
    by_cases there : call.key ∈ state.session.stored.map StoredProperty.name
    · rw [PropertySession.place_of_mem call.value there]
      refine ⟨by rw [slotted.same], ?_, ?_⟩
      · have names := congrArg length
          (names_replaceProperty call.key call.value state.session.stored)
        rw [length_map, length_map] at names
        exact names.trans_le slotted.few
      · rw [names_replaceProperty]
        exact slotted.whole
    · by_cases room : state.session.stored.length < propertySlots
      · rw [PropertySession.place_of_room call.value there room]
        refine ⟨by rw [slotted.same], ?_, ?_⟩
        · rw [length_append]
          exact room
        · intro name named
          rw [map_append, mem_append] at named
          rcases named with before | added
          · exact slotted.whole name before
          · rw [eq_of_mem_singleton added]
            exact payloadCstr_whole call.key
      · rw [PropertySession.place_of_full call.value there (Nat.not_lt.mp room)]
        exact ⟨slotted.same, slotted.few, slotted.whole⟩
  · obtain ⟨status, -, failed⟩ :=
      PropertySession.setProperty_of_not_applies applies
    rw [failed]
    exact ⟨slotted.same, slotted.few, slotted.whole⟩

/-- The slots mirror the calls. -/
structure Mirrors (utf8 : List UInt8 → Bool) (base : PropertySession)
    (state : PropertyRun) : Prop where
  apart : (state.session.stored.map StoredProperty.name).Nodup
  served : ∀ entry ∈ state.log, base.Applies utf8 entry.1 ↔ entry.2 = 0
  values : ∀ key, storedValue state.session.stored key = lastSet state.log key

theorem Mirrors.applied (mirrors : Mirrors utf8 base state)
    (there : key ∈ state.session.stored.map StoredProperty.name) :
    key ∈ appliedKeys utf8 base (state.log.map Prod.fst) := by
  rw [← storedValue_isSome, mirrors.values, lastSet_isSome] at there
  obtain ⟨entry, logged, rfl, success⟩ := there
  exact mem_appliedKeys.mpr ⟨entry.1, mem_map_of_mem logged,
    (mirrors.served entry logged).mpr success, rfl⟩

theorem Mirrors.room (mirrors : Mirrors utf8 base state)
    (storable : Storable utf8 base (call :: state.log.map Prod.fst))
    (applies : base.Applies utf8 call)
    (fresh : call.key ∉ state.session.stored.map StoredProperty.name) :
    state.session.stored.length < propertySlots := by
  have apart : (call.key :: state.session.stored.map StoredProperty.name).Nodup :=
    nodup_cons.mpr ⟨fresh, mirrors.apart⟩
  have among : (call.key :: state.session.stored.map StoredProperty.name).toFinset ⊆
        appliedKeys utf8 base (call :: state.log.map Prod.fst) := by
    intro key listed
    rcases mem_cons.mp (mem_toFinset.mp listed) with rfl | before
    · exact mem_appliedKeys.mpr ⟨call, mem_cons_self, applies, rfl⟩
    · obtain ⟨earlier, called, rest⟩ :=
        mem_appliedKeys.mp (mirrors.applied before)
      exact mem_appliedKeys.mpr ⟨earlier, mem_cons_of_mem call called, rest⟩
  have count := (Finset.card_le_card among).trans storable.2
  rw [toFinset_card_of_nodup apart, length_cons, length_map] at count
  exact count

theorem Mirrors.step (mirrors : Mirrors utf8 base state) (slotted : Slotted base state)
    (storable : Storable utf8 base (call :: state.log.map Prod.fst)) :
    Mirrors utf8 base (state.step utf8 call) := by
  have agree : state.session.Applies utf8 call ↔ base.Applies utf8 call := by
    rw [slotted.same]
    exact Iff.rfl
  have extended : ∀ status : Int32, (base.Applies utf8 call ↔ status = 0) →
      ∀ entry ∈ (call, status) :: state.log, base.Applies utf8 entry.1 ↔ entry.2 = 0 := by
    intro status served entry logged
    rcases mem_cons.mp logged with rfl | before
    · exact served
    · exact mirrors.served entry before
  unfold PropertyRun.step
  by_cases applies : base.Applies utf8 call
  · have served : base.Applies utf8 call ↔ (0 : Int32) = 0 :=
      ⟨fun _ => rfl, fun _ => applies⟩
    rw [PropertySession.setProperty_of_applies (agree.mpr applies)]
    by_cases there : call.key ∈ state.session.stored.map StoredProperty.name
    · rw [PropertySession.place_of_mem call.value there]
      refine ⟨?_, extended 0 served, fun key => ?_⟩
      · rw [names_replaceProperty]
        exact mirrors.apart
      · rw [lastSet_cons, storedValue_replaceProperty call.value there, mirrors.values]
        simp only [and_true, eq_comm]
    · rw [PropertySession.place_of_room call.value there (mirrors.room storable applies there)]
      have whole := storable.1 call.key (mem_appliedKeys.mpr ⟨call, mem_cons_self, applies, rfl⟩)
      have name : (⟨fillKeyBytes 64 call.key, call.value⟩ :
          StoredProperty).name = call.key := name_of_whole whole
      refine ⟨?_, extended 0 served, fun key => ?_⟩
      · rw [map_append, map_singleton, name]
        exact nodup_append_comm.mp (nodup_cons.mpr ⟨there, mirrors.apart⟩)
      · rw [lastSet_cons, storedValue_append _ (by rwa [name]), name, mirrors.values]
        simp only [and_true, eq_comm]
  · obtain ⟨status, nonzero, failed⟩ :=
      PropertySession.setProperty_of_not_applies (mt agree.mp applies)
    rw [failed]
    refine ⟨mirrors.apart, extended status ⟨fun applied => absurd applied applies,
        fun success => absurd success nonzero⟩, fun key => ?_⟩
    rw [lastSet_cons, if_neg fun last => nonzero last.2]
    exact mirrors.values key

theorem calls_run (state : PropertyRun) (calls : List SetPropertyCall) :
    (run (step utf8) state calls).log.map Prod.fst =
      calls.reverse ++ state.log.map Prod.fst := by
  induction calls generalizing state with
  | nil => rfl
  | cons call calls induction =>
    rw [run_cons, induction, reverse_cons, append_assoc]
    rfl

theorem run_slotted (hostId : UInt64) (invalidated : Bool) (calls : List SetPropertyCall) :
    Slotted ⟨hostId, invalidated, []⟩
      (run (step utf8) (created hostId invalidated) calls) :=
  invariant_of_step (fun _ call slotted => slotted.step call) ⟨rfl, Nat.zero_le _, nofun⟩ calls

theorem run_mirrors (hostId : UInt64) (invalidated : Bool)
    (storable : Storable utf8 ⟨hostId, invalidated, []⟩ calls) :
    Mirrors utf8 ⟨hostId, invalidated, []⟩
      (run (step utf8) (created hostId invalidated) calls) := by
  induction calls using reverseRecOn with
  | nil => exact ⟨nodup_nil, nofun, fun _ => rfl⟩
  | append_singleton calls call induction =>
    have front := storable.perm (perm_append_singleton call calls)
    have reversed : Storable utf8 ⟨hostId, invalidated, []⟩
        (call :: (run (step utf8) (created hostId invalidated)
          calls).log.map Prod.fst) := by
      rw [calls_run]
      refine front.perm (List.Perm.cons call ?_)
      exact (reverse_perm calls).symm.trans (append_nil _ ▸ .rfl)
    rw [run_append]
    exact (induction front.of_cons).step (run_slotted _ _ _) reversed

theorem Mirrors.faithful (mirrors : Mirrors utf8 base state) (slotted : Slotted base state) :
    Faithful utf8 state := by
  have agree : ∀ call, state.session.Applies utf8 call →
      base.Applies utf8 call := by
    intro call applies
    rw [slotted.same] at applies
    exact applies
  refine ⟨fun entry logged failed applies => ?_, fun key => ?_⟩
  · exact failed ((mirrors.served entry logged).mp (agree entry.1 applies))
  · rw [PropertySession.toOption_copyProperty, mirrors.values]
    split
    · rfl
    next closed =>
      cases last : lastSet state.log key with
      | none => rfl
      | some value =>
        obtain ⟨entry, logged, rfl, success⟩ :=
          lastSet_isSome.mp (Option.isSome_of_eq_some last)
        obtain ⟨valid, text, -⟩ := (mirrors.served entry logged).mpr success
        rw [slotted.same] at closed
        exact absurd ⟨valid, text⟩ closed

theorem Faithful.stored (faithful : Faithful utf8 state) {entry : SetPropertyCall × Int32}
    (logged : entry ∈ state.log) (applies : state.session.Applies utf8 entry.1) :
    entry.1.key ∈ state.session.stored.map StoredProperty.name := by
  have success : entry.2 = 0 :=
    by_contra fun failed => faithful.errors entry logged failed applies
  have last := lastSet_isSome.mpr ⟨entry, logged, rfl, success⟩
  rw [← faithful.copies, PropertySession.toOption_copyProperty,
    if_pos ⟨applies.1, applies.2.1⟩] at last
  exact storedValue_isSome.mp last

/-- A session behaves as a map, with errors for the values that were not
applied, exactly as long as the applied keys fit the slots. -/
theorem properties_faithful_iff (utf8 : List UInt8 → Bool) (hostId : UInt64)
    (invalidated : Bool) (calls : List SetPropertyCall) :
    Faithful utf8 (run (step utf8) (created hostId invalidated) calls) ↔
      Storable utf8 ⟨hostId, invalidated, []⟩ calls := by
  have slotted : Slotted ⟨hostId, invalidated, []⟩
      (run (step utf8) (created hostId invalidated) calls) :=
    run_slotted hostId invalidated calls
  refine ⟨fun faithful => ?_, fun storable =>
    (run_mirrors hostId invalidated storable).faithful slotted⟩
  have among : ∀ key ∈ appliedKeys utf8 ⟨hostId, invalidated, []⟩ calls,
      key ∈ (run (step utf8) (created hostId invalidated)
        calls).session.stored.map StoredProperty.name := by
    intro key applied
    obtain ⟨call, called, applies, rfl⟩ := mem_appliedKeys.mp applied
    have made := @calls_run utf8 (created hostId invalidated) calls
    rw [← mem_reverse, ← append_nil calls.reverse] at called
    obtain ⟨entry, logged, rfl⟩ := mem_map.mp (made ▸ called)
    refine faithful.stored logged ?_
    rw [slotted.same]
    exact applies
  refine ⟨fun key applied => slotted.whole key (among key applied), ?_⟩
  calc (appliedKeys utf8 ⟨hostId, invalidated, []⟩ calls).card
      ≤ _ := Finset.card_le_card fun key applied =>
        mem_toFinset.mpr (among key applied)
    _ ≤ _ := toFinset_card_le _
    _ ≤ propertySlots := by
        rw [length_map]
        exact slotted.few

def flagCall (key : List UInt8) : SetPropertyCall :=
  ⟨1, 2, key, .boolean true, true⟩

theorem two_flags_faithful :
    Faithful (fun _ => true) (run (step fun _ => true)
      (created 1 false) [flagCall [82], flagCall [65], flagCall [82]]) :=
  (properties_faithful_iff (fun _ => true) 1 false _).mpr ⟨by decide +kernel, by decide +kernel⟩

/-- The seventeenth key is applied by the worker and refused to the client. -/
theorem seventeenth_key_refused :
    ∃ calls : List SetPropertyCall, (∀ call ∈ calls, WholeKey call.key) ∧
        ¬ Faithful (fun _ => true) (run (step fun _ => true)
          (created 1 false) calls) := by
  refine ⟨(range 17).map fun n => flagCall [(65 + n).toUInt8],
    by decide +kernel, fun faithful => ?_⟩
  have refused := faithful.errors (flagCall [81], -12900) (by decide +kernel) (by decide)
  exact refused (by decide +kernel)

end PropertyRun

end Shim

end VtFerry
