import AutomationTool.Core.Chronicle
import AutomationTool.Core.Schedule
import AutomationTool.ControlPlane.ConnectionRegistry

/-!
# Reconnects cannot touch their successors

Any number of operations of the registry, by connections old and new, interleaved section by
section and act by act.

* `tracks_exec`: the entry of an installation is the connection it registered last, unless
  that one was unregistered or everything was shut down.
* `registry_fenced`: that, at every moment of every run; a connection that was replaced does
  nothing to the entry or to the websocket of the one that replaced it; and the sequences
  accepted on one connection go up.

`FreshHandshake` is how the registry is called: `bind_hello` draws the id of a connection with
`ExecutorConnectionId.new()`, and the endpoint registers it once, with its own websocket.
-/
namespace AutomationTool.ControlPlane.Registry

open Protocol ExecutorConnectionRegistry

/-! ## What the history says -/

/-- An event that leaves the entry of a lease where it is. -/
def RegistryEvent.keeps (lease : Lease) : RegistryEvent → Prop
  | .registered b _ => b.installationId ≠ lease.installationId
  | .unregistered l => l ≠ lease
  | .shutdown => False
  | _ => True

/-- Its installation registered no other connection since, and nobody unregistered it. -/
def Current (lease : Lease) (channel : ExecutorConnectionChannel) (history : List RegistryEvent) :
    Prop :=
  ∃ later b earlier, history = later ++ .registered b channel :: earlier ∧ b.lease = lease ∧
    ∀ e ∈ later, e.keeps lease

def RegistryEvent.registration? : RegistryEvent →
    Option (BoundExecutorConnection × ExecutorConnectionChannel)
  | .registered b channel => some (b, channel)
  | _ => none

/-- The connections registered so far, latest first. -/
def registrations (history : List RegistryEvent) :
    List (BoundExecutorConnection × ExecutorConnectionChannel) :=
  history.filterMap RegistryEvent.registration?

/-- The sequence of a message a connection was accepted with. -/
def RegistryEvent.sequence? (lease : Lease) : RegistryEvent → Option Nat
  | .registered b _ => if b.lease = lease then some b.helloSequence else none
  | .accepted l sequence => if l = lease then some sequence else none
  | _ => none

def sequences (lease : Lease) (history : List RegistryEvent) : List Nat :=
  history.filterMap (RegistryEvent.sequence? lease)

/-- A connection of the same installation registered after that of the lease. -/
def Succeeds (lease : Lease) (b : BoundExecutorConnection) (channel : ExecutorConnectionChannel)
    (history : List RegistryEvent) : Prop :=
  ∃ later earlier, registrations history = later ++ (b, channel) :: earlier ∧
    b.installationId = lease.installationId ∧ ∃ r ∈ earlier, r.1.lease = lease

/-- The websocket of a connection of the same installation registered before that of the lease. -/
def Displaced (lease : Lease) (channel : ExecutorConnectionChannel)
    (history : List RegistryEvent) : Prop :=
  ∃ later r earlier b, registrations history = later ++ r :: earlier ∧ r.1.lease = lease ∧
    (b, channel) ∈ earlier ∧ b.installationId = lease.installationId

/-- A new connection comes with an id and a websocket of its own. -/
def FreshHandshake : RegistryOp → ExecutorConnectionRegistry → Prop
  | .insert b channel _, s =>
    ∀ r ∈ registrations s.history, r.1.connectionId ≠ b.connectionId ∧ r.2 ≠ channel
  | _, _ => True

instance (o : RegistryOp) (s : ExecutorConnectionRegistry) : Decidable (FreshHandshake o s) :=
  match o with
  | .insert .. => by unfold FreshHandshake; infer_instance
  | .heartbeat .. | .isCurrent .. | .remove .. | .channelOf .. | .sendText .. | .clear
  | .close .. | .network .. => isTrue trivial

theorem current_nil {lease : Lease} {channel : ExecutorConnectionChannel} :
    ¬Current lease channel [] := by
  rintro ⟨later, b, earlier, h, -⟩
  simp at h

theorem current_cons {lease : Lease} {channel : ExecutorConnectionChannel} {e : RegistryEvent}
    {history : List RegistryEvent} :
    Current lease channel (e :: history) ↔
      (∃ b, e = .registered b channel ∧ b.lease = lease) ∨
        e.keeps lease ∧ Current lease channel history := by
  constructor
  · rintro ⟨later, b, earlier, h, hb, hkeeps⟩
    cases later with
    | nil =>
      obtain ⟨rfl, -⟩ := List.cons.inj h
      exact .inl ⟨b, rfl, hb⟩
    | cons e' later =>
      obtain ⟨rfl, hrest⟩ := List.cons.inj h
      exact .inr ⟨hkeeps _ List.mem_cons_self, later, b, earlier, hrest, hb,
        fun x hx => hkeeps x (List.mem_cons_of_mem _ hx)⟩
  · rintro (⟨b, rfl, hb⟩ | ⟨hkeep, later, b, earlier, rfl, hb, hkeeps⟩)
    · exact ⟨[], b, history, rfl, hb, fun x hx => nomatch hx⟩
    · refine ⟨e :: later, b, earlier, rfl, hb, fun x hx => ?_⟩
      rcases List.mem_cons.1 hx with rfl | hx
      · exact hkeep
      · exact hkeeps x hx

/-- A registration, or an event the entry outlives. -/
theorem current_cons_of_keeps {lease : Lease} {channel : ExecutorConnectionChannel}
    {e : RegistryEvent} {history : List RegistryEvent} (he : e.registration? = none)
    (hk : e.keeps lease) : Current lease channel (e :: history) ↔ Current lease channel history := by
  rw [current_cons]
  refine ⟨fun h => ?_, fun h => .inr ⟨hk, h⟩⟩
  rcases h with ⟨b, rfl, -⟩ | ⟨-, h⟩
  · cases he
  · exact h

/-! ## The entries -/

/-- The entries are what the history says. -/
def Tracks (s : ExecutorConnectionRegistry) : Prop :=
  ∀ lease channel, s.serving lease.installationId = some (lease.connectionId, channel) ↔
    Current lease channel s.history

theorem isCurrent_iff {s : ExecutorConnectionRegistry} {lease : Lease} :
    s.isCurrent lease = true ↔
      ∃ channel, s.serving lease.installationId = some (lease.connectionId, channel) := by
  unfold isCurrent serving
  cases h : s.connections.lookup lease.installationId with
  | none => simp
  | some r => simp

theorem channelOf_eq_some {s : ExecutorConnectionRegistry} {lease : Lease}
    {channel : ExecutorConnectionChannel} :
    s.channelOf lease = some channel ↔
      s.serving lease.installationId = some (lease.connectionId, channel) := by
  unfold channelOf serving
  cases h : s.connections.lookup lease.installationId with
  | none => simp
  | some r =>
    by_cases hr : r.online.connectionId = lease.connectionId
    · simp [hr]
    · simp [hr]

/-- What an operation does to a websocket it does to one of its own, or of a predecessor. -/
def RegistryOp.ok : RegistryOp → ExecutorConnectionRegistry → Prop
  | .sendText lease channel _, s => ∃ r ∈ registrations s.history, r.1.lease = lease ∧ r.2 = channel
  | .close (some lease) channel _, s => Displaced lease channel s.history
  | _, _ => True

/-- An event that may follow that history. -/
def RegistryEvent.Follows (history : List RegistryEvent) : RegistryEvent → Prop
  | .registered b channel =>
    ∀ r ∈ registrations history, r.1.connectionId ≠ b.connectionId ∧ r.2 ≠ channel
  | .accepted lease sequence => ∃ n, (sequences lease history).head? = some n ∧ n < sequence
  | .sent lease channel _ => ∃ r ∈ registrations history, r.1.lease = lease ∧ r.2 = channel
  | .closed (some lease) channel _ => Displaced lease channel history
  | _ => True

/-- What a section does to the entries, and what it writes down. -/
inductive EntryStep (s : ExecutorConnectionRegistry) :
    RegistryOp → ExecutorConnectionRegistry → Prop where
  | stays {o : RegistryOp} {s' : ExecutorConnectionRegistry} (hc : s'.connections = s.connections)
      (hh : s'.history = s.history) : EntryStep s o s'
  | acts {o : RegistryOp} {s' : ExecutorConnectionRegistry} {e : RegistryEvent}
      (hc : s'.connections = s.connections) (hh : s'.history = e :: s.history)
      (he : e.registration? = none) (hs : ∀ lease, e.sequence? lease = none)
      (hk : ∀ lease, e.keeps lease) (hok : o.ok s → e.Follows s.history) : EntryStep s o s'
  | registers {s' : ExecutorConnectionRegistry} (b : BoundExecutorConnection)
      (channel : ExecutorConnectionChannel) (now : Time) (hb : s.isCurrent b.lease = false)
      (hc : s'.connections = s.connections.insert b.installationId ⟨b.online now, channel⟩)
      (hh : s'.history = .registered b channel :: s.history) :
      EntryStep s (.insert b channel now) s'
  | accepts {o : RegistryOp} {s' : ExecutorConnectionRegistry} (lease : Lease)
      (r : RegisteredConnection) (sequence : Nat) (now : Time)
      (hr : s.connections.lookup lease.installationId = some r)
      (hid : r.online.connectionId = lease.connectionId) (hlt : r.online.lastSequence < sequence)
      (hc : s'.connections = s.connections.insert lease.installationId
        { r with online := { r.online with lastHeartbeatAt := now, lastSequence := sequence } })
      (hh : s'.history = .accepted lease sequence :: s.history) : EntryStep s o s'
  | removes {o : RegistryOp} {s' : ExecutorConnectionRegistry} (lease : Lease)
      (hc : s'.connections = if s.isCurrent lease then s.connections.erase lease.installationId
        else s.connections)
      (hh : s'.history = .unregistered lease :: s.history) : EntryStep s o s'
  | shuts {o : RegistryOp} {s' : ExecutorConnectionRegistry} (hc : s'.connections = ∅)
      (hh : s'.history = .shutdown :: s.history) : EntryStep s o s'

theorem entryStep (o : RegistryOp) (s : ExecutorConnectionRegistry) :
    EntryStep s o (exec o s).2 := by
  cases o with
  | insert b channel now =>
    simp only [exec, ExecutorConnectionRegistry.insert]
    split
    · exact .stays rfl rfl
    · split
      · exact .stays rfl rfl
      · next hcur => exact .registers b channel now (Bool.eq_false_iff.2 hcur) rfl rfl
  | heartbeat lease sequence now =>
    simp only [exec, heartbeat]
    split
    · exact .stays rfl rfl
    · next r hr =>
      split
      · exact .stays rfl rfl
      · next hid =>
        split
        · exact .stays rfl rfl
        · next hord =>
          exact .accepts lease r sequence now hr (not_not.1 hid)
            (Nat.not_le.1 fun h => hord (.inl h)) rfl rfl
  | isCurrent lease => exact .stays rfl rfl
  | remove lease =>
    refine .removes lease ?_ ?_ <;> simp only [exec, remove] <;> split <;> rfl
  | channelOf lease => exact .stays rfl rfl
  | sendText lease channel source =>
    exact .acts (e := .sent lease channel source) rfl rfl rfl (fun _ => rfl) (fun _ => trivial) id
  | clear =>
    simp only [exec, clear]
    split
    · exact .stays rfl rfl
    · exact .shuts rfl rfl
  | close closer channel frame =>
    refine .acts (e := .closed closer channel frame) rfl rfl rfl (fun _ => rfl) (fun _ => trivial)
      fun hok => ?_
    cases closer with
    | none => exact trivial
    | some lease => exact hok
  | network failing => exact .stays rfl rfl

theorem serving_congr {s s' : ExecutorConnectionRegistry} (h : s'.connections = s.connections)
    (i : InstallationId) : s'.serving i = s.serving i := by
  unfold serving
  rw [h]

theorem EntryStep.tracks {s s' : ExecutorConnectionRegistry} {o : RegistryOp}
    (h : EntryStep s o s') (ht : Tracks s) : Tracks s' := by
  intro lease channel
  cases h with
  | stays hc hh =>
    rw [serving, hc, hh]
    exact ht lease channel
  | acts hc hh he _ hk _ =>
    rw [serving, hc, hh, current_cons_of_keeps he (hk lease)]
    exact ht lease channel
  | registers b channel' now _ hc hh =>
    rw [serving, hc, hh, current_cons]
    by_cases hi : b.installationId = lease.installationId
    · rw [← hi, AList.lookup_insert]
      have hkeep : ¬(RegistryEvent.registered b channel').keeps lease := fun hk => hk hi
      simp only [hkeep, false_and, or_false, RegistryEvent.registered.injEq, Option.map_some,
        Option.some.injEq, Prod.mk.injEq]
      constructor
      · rintro ⟨hid, rfl⟩
        exact ⟨b, ⟨rfl, rfl⟩, BoundExecutorConnection.lease_eq_iff.2 ⟨hi, hid⟩⟩
      · rintro ⟨b', ⟨rfl, rfl⟩, hb'⟩
        exact ⟨(BoundExecutorConnection.lease_eq_iff.1 hb').2, rfl⟩
    · rw [AList.lookup_insert_ne (Ne.symm hi)]
      refine (ht lease channel).trans ⟨fun h => .inr ⟨hi, h⟩, fun h => ?_⟩
      rcases h with ⟨b', he, hb'⟩ | ⟨-, h⟩
      · cases he
        exact absurd (BoundExecutorConnection.lease_eq_iff.1 hb').1 hi
      · exact h
  | accepts l r sequence now hr hid _ hc hh =>
    have hk : (RegistryEvent.accepted l sequence).keeps lease := trivial
    rw [hh, current_cons_of_keeps rfl hk, ← ht lease channel, serving, serving, hc]
    by_cases hi : lease.installationId = l.installationId
    · rw [hi, AList.lookup_insert, hr]
      rfl
    · rw [AList.lookup_insert_ne hi]
  | removes l hc hh =>
    have hne : (∃ b, RegistryEvent.unregistered l = .registered b channel ∧ b.lease = lease) ↔
        False := by simp
    rw [hh, current_cons, hne, false_or, ← ht lease channel]
    show _ ↔ l ≠ lease ∧ _
    cases hcur : s.isCurrent l with
    | false =>
      rw [hcur] at hc
      rw [serving_congr hc]
      refine ⟨fun h => ⟨?_, h⟩, And.right⟩
      rintro rfl
      rw [isCurrent_iff.2 ⟨channel, h⟩] at hcur
      cases hcur
    | true =>
      rw [hcur] at hc
      obtain ⟨channel', hl⟩ := isCurrent_iff.1 hcur
      by_cases hi : lease.installationId = l.installationId
      · rw [serving, hc, hi, if_pos rfl, AList.lookup_erase]
        -- the installation served the lease that is taken away, and no other
        refine ⟨fun h => (nomatch h), fun ⟨hne, h⟩ => absurd (Lease.ext hi.symm ?_) hne⟩
        rw [hl] at h
        exact congrArg Prod.fst (Option.some.inj h)
      · have hsame : s'.serving lease.installationId = s.serving lease.installationId := by
          rw [serving, serving, hc, if_pos rfl, AList.lookup_erase_ne hi]
        rw [hsame]
        exact ⟨fun h => ⟨fun hl => hi (hl ▸ rfl), h⟩, And.right⟩
  | shuts hc hh =>
    rw [serving, hc, hh, current_cons]
    simp [RegistryEvent.keeps]

theorem EntryStep.suffix {s s' : ExecutorConnectionRegistry} {o : RegistryOp}
    (h : EntryStep s o s') : s.history <:+ s'.history := by
  cases h with
  | stays _ hh => exact hh ▸ List.suffix_refl _
  | acts _ hh => rw [hh]; exact List.suffix_cons _ _
  | registers _ _ _ _ _ hh => rw [hh]; exact List.suffix_cons _ _
  | accepts _ _ _ _ _ _ _ _ hh => rw [hh]; exact List.suffix_cons _ _
  | removes _ _ hh => rw [hh]; exact List.suffix_cons _ _
  | shuts _ hh => rw [hh]; exact List.suffix_cons _ _

/-! ## The operations, with anything in between -/

theorem registrations_suffix {h h' : List RegistryEvent} (hs : h <:+ h') :
    registrations h <:+ registrations h' := by
  obtain ⟨t, rfl⟩ := hs
  exact ⟨registrations t, (List.filterMap_append ..).symm⟩

theorem Displaced.mono {lease : Lease} {channel : ExecutorConnectionChannel}
    {h h' : List RegistryEvent} (hd : Displaced lease channel h) (hs : h <:+ h') :
    Displaced lease channel h' := by
  obtain ⟨t, ht⟩ := registrations_suffix hs
  obtain ⟨later, r, earlier, b, heq, hrest⟩ := hd
  exact ⟨t ++ later, r, earlier, b, by rw [← ht, heq, List.append_assoc], hrest⟩

theorem Current.registered {lease : Lease} {channel : ExecutorConnectionChannel}
    {h : List RegistryEvent} (hc : Current lease channel h) :
    ∃ r ∈ registrations h, r.1.lease = lease ∧ r.2 = channel := by
  obtain ⟨later, b, earlier, rfl, hb, -⟩ := hc
  refine ⟨(b, channel), ?_, hb, rfl⟩
  simp [registrations, RegistryEvent.registration?]

def HistoryGrows (s s' : ExecutorConnectionRegistry) : Prop := s.history <:+ s'.history

theorem registry_guarantee : Prog.Guarantee exec Tracks HistoryGrows RegistryOp.ok where
  refl s := List.suffix_refl s.history
  trans _ _ _ hab hbc := List.IsSuffix.trans hab hbc
  keeps o s ht _ := (entryStep o s).tracks ht
  moves o s _ _ := (entryStep o s).suffix

/-- The register of the connection that was there comes before its own. -/
theorem displaced_of_insert {s : ExecutorConnectionRegistry} {b : BoundExecutorConnection}
    {channel : ExecutorConnectionChannel} {now : Time} {online : OnlineExecutorConnection}
    {previous : RegisteredConnection} (ht : Tracks s)
    (h : (s.insert b channel now).1 = .ok (online, some previous)) :
    Displaced b.lease previous.channel (s.insert b channel now).2.history := by
  unfold ExecutorConnectionRegistry.insert at h ⊢
  split at h
  · cases h
  · split at h
    · cases h
    · next hclosed hcur =>
      rw [if_neg hclosed, if_neg hcur]
      obtain ⟨rfl, hprevious⟩ := Prod.mk.inj (Except.ok.inj h)
      have hserve : s.serving b.installationId =
          some (previous.online.connectionId, previous.channel) := by
        rw [serving, hprevious]
        rfl
      obtain ⟨r, hr, hlease, hch⟩ :=
        ((ht ⟨b.installationId, previous.online.connectionId⟩ previous.channel).1 hserve).registered
      refine ⟨[], (b, channel), registrations s.history, r.1, rfl, rfl, ?_, ?_⟩
      · rw [← hch]
        exact hr
      · exact (BoundExecutorConnection.lease_eq_iff.1 hlease).1

theorem safe_of_harmless {α : Type} {p : RegistryProg α} (hp : p.uses fun o => ∀ s, o.ok s)
    {s : ExecutorConnectionRegistry} (ht : Tracks s) :
    p.safe exec Tracks HistoryGrows RegistryOp.ok s :=
  Prog.wp_of_uses registry_guarantee (fun _ s ho _ => ho s) hp (fun _ _ _ => trivial)
    (fun _ _ => trivial) ht

theorem register_safe (b : BoundExecutorConnection) (channel : ExecutorConnectionChannel)
    (now : Time) (s : ExecutorConnectionRegistry) :
    (register b channel now >>= fun _ => (pure () : RegistryProg Unit)).safe
      exec Tracks HistoryGrows RegistryOp.ok s := by
  unfold register
  split
  · exact trivial
  · intro s₁ ht₁ _
    refine ⟨trivial, ?_⟩
    show Prog.wp _ _ _ _ (_ : RegistryProg Unit) _ _ (s₁.insert b channel now).2
    simp only [exec]
    cases h : (s₁.insert b channel now).1 with
    | error e => exact trivial
    | ok p =>
      obtain ⟨online, previous⟩ := p
      cases previous with
      | none => exact trivial
      | some previous =>
        intro s₂ _ hr
        exact ⟨(displaced_of_insert ht₁ h).mono hr, trivial⟩

theorem sendCurrent_safe (lease : Lease) (source : String) (s : ExecutorConnectionRegistry) :
    (sendCurrent lease source >>= fun _ => (pure () : RegistryProg Unit)).safe
      exec Tracks HistoryGrows RegistryOp.ok s := by
  unfold sendCurrent
  split
  · exact trivial
  · intro s₁ ht₁ _
    refine ⟨trivial, ?_⟩
    show Prog.wp _ _ _ _ (_ : RegistryProg Unit) _ _ s₁
    simp only [exec]
    cases h : s₁.channelOf lease with
    | none => exact trivial
    | some channel =>
      intro s₂ _ hr
      obtain ⟨r, hr', hown⟩ := ((ht₁ lease channel).1 (channelOf_eq_some.1 h)).registered
      refine ⟨⟨r, (registrations_suffix hr).subset hr', hown⟩, ?_⟩
      -- whether the connection is still the current one makes no further call
      cases (exec (.sendText lease channel source) s₂).1 with
      | false => exact trivial
      | true =>
        intro s₃ _ _
        refine ⟨trivial, ?_⟩
        cases (exec (.isCurrent lease) s₃).1 <;> exact trivial

theorem offered_safe {p : RegistryProg Unit} (hp : RegistryOffered p)
    (s : ExecutorConnectionRegistry) (ht : Tracks s) :
    p.safe exec Tracks HistoryGrows RegistryOp.ok s := by
  cases hp with
  | register b channel now => exact register_safe b channel now s
  | sendCurrent lease source => exact sendCurrent_safe lease source s
  | recordHeartbeat b sequence now =>
    refine safe_of_harmless ?_ ht
    refine Prog.uses_bind ?_ fun _ => trivial
    unfold recordHeartbeat
    split
    · exact trivial
    · exact Prog.uses_op.2 fun _ => trivial
  | queryCurrent b =>
    refine safe_of_harmless ?_ ht
    refine Prog.uses_bind ?_ fun _ => trivial
    unfold queryCurrent
    split
    · exact trivial
    · exact ⟨fun _ => trivial, fun _ => trivial⟩
  | unregister b =>
    refine safe_of_harmless ?_ ht
    refine Prog.uses_bind ?_ fun _ => trivial
    unfold unregister
    split
    · exact trivial
    · exact ⟨fun _ => trivial, fun _ => trivial⟩
  | shutdown =>
    refine safe_of_harmless ?_ ht
    refine ⟨fun _ => trivial, fun r => ?_⟩
    cases r with
    | none => exact trivial
    | some registered =>
      refine Prog.uses_each fun o ho => ?_
      obtain ⟨r, -, rfl⟩ := List.mem_map.1 ho
      exact fun _ => trivial
  | network failing =>
    refine safe_of_harmless ?_ ht
    exact ⟨fun _ => trivial, fun _ => trivial⟩

/-! ## What may follow what -/

/-- Every event of the history follows what was there before it. -/
def Orderly (history : List RegistryEvent) : Prop := Chronicle RegistryEvent.Follows history

/-- What an entry says of its last message is what was accepted last. -/
def LastSequence (s : ExecutorConnectionRegistry) : Prop :=
  ∀ lease r, s.connections.lookup lease.installationId = some r →
    r.online.connectionId = lease.connectionId →
      (sequences lease s.history).head? = some r.online.lastSequence

theorem EntryStep.lastSequence {s s' : ExecutorConnectionRegistry} {o : RegistryOp}
    (h : EntryStep s o s') (hl : LastSequence s) : LastSequence s' := by
  intro lease r hr hid
  cases h with
  | stays hc hh =>
    rw [hc] at hr
    rw [hh]
    exact hl lease r hr hid
  | @acts _ _ e hc hh _ hs _ _ =>
    rw [hc] at hr
    rw [hh, sequences, List.filterMap_cons, hs lease]
    exact hl lease r hr hid
  | registers b channel now _ hc hh =>
    rw [hc] at hr
    rw [hh, sequences, List.filterMap_cons]
    by_cases hi : lease.installationId = b.installationId
    · rw [hi, AList.lookup_insert] at hr
      cases hr
      have hb : b.lease = lease := BoundExecutorConnection.lease_eq_iff.2 ⟨hi.symm, hid⟩
      simp [RegistryEvent.sequence?, hb, BoundExecutorConnection.online]
    · rw [AList.lookup_insert_ne hi] at hr
      have hb : b.lease ≠ lease := fun hb => hi (hb ▸ rfl)
      simp only [RegistryEvent.sequence?, if_neg hb]
      exact hl lease r hr hid
  | accepts l r₀ sequence now hr₀ hid₀ _ hc hh =>
    rw [hc] at hr
    rw [hh, sequences, List.filterMap_cons]
    by_cases hi : lease.installationId = l.installationId
    · rw [hi, AList.lookup_insert] at hr
      cases hr
      have hl : l = lease := Lease.ext hi.symm (hid₀.symm.trans hid)
      simp [RegistryEvent.sequence?, hl]
    · rw [AList.lookup_insert_ne hi] at hr
      have hne : l ≠ lease := fun hl => hi (hl ▸ rfl)
      simp only [RegistryEvent.sequence?, if_neg hne]
      exact hl lease r hr hid
  | removes l hc hh =>
    have hr' : s.connections.lookup lease.installationId = some r := by
      rw [hc] at hr
      split at hr
      · by_cases hi : lease.installationId = l.installationId
        · rw [hi, AList.lookup_erase] at hr
          cases hr
        · rwa [AList.lookup_erase_ne hi] at hr
      · exact hr
    rw [hh]
    exact hl lease r hr' hid
  | shuts hc hh =>
    rw [hc] at hr
    cases hr

theorem EntryStep.orderly {s s' : ExecutorConnectionRegistry} {o : RegistryOp}
    (h : EntryStep s o s') (hl : LastSequence s) (hok : o.ok s) (hfresh : FreshHandshake o s)
    (ho : Orderly s.history) : Orderly s'.history := by
  cases h with
  | stays _ hh => exact hh ▸ ho
  | acts _ hh _ _ _ hf =>
    rw [hh]
    exact ⟨hf hok, ho⟩
  | registers _ _ _ _ _ hh =>
    rw [hh]
    exact ⟨hfresh, ho⟩
  | accepts lease r sequence _ hr hid hlt _ hh =>
    rw [hh]
    exact ⟨⟨_, hl lease r hr hid, hlt⟩, ho⟩
  | removes _ _ hh =>
    rw [hh]
    exact ⟨trivial, ho⟩
  | shuts _ hh =>
    rw [hh]
    exact ⟨trivial, ho⟩

namespace Orderly

variable {history : List RegistryEvent} {lease : Lease} {channel : ExecutorConnectionChannel}

/-- A connection nobody registered was never accepted with a message. -/
theorem registered_of_sequences (h : Orderly history) {n : Nat} (hn : n ∈ sequences lease history) :
    ∃ r ∈ registrations history, r.1.lease = lease := by
  induction history generalizing n with
  | nil => cases hn
  | cons e history ih =>
    have hgrow : ∀ r ∈ registrations history, r ∈ registrations (e :: history) :=
      fun r hr => (registrations_suffix (List.suffix_cons e history)).subset hr
    obtain ⟨e', he', hseq⟩ := List.mem_filterMap.1 hn
    rcases List.mem_cons.1 he' with rfl | he'
    · cases e' with
      | registered b ch =>
        simp only [RegistryEvent.sequence?, Option.ite_none_right_eq_some] at hseq
        exact ⟨(b, ch), List.mem_cons_self, hseq.1⟩
      | accepted l sequence =>
        simp only [RegistryEvent.sequence?, Option.ite_none_right_eq_some] at hseq
        obtain ⟨⟨m, hm, -⟩, ho⟩ := h
        rw [hseq.1] at hm
        obtain ⟨r, hr, hlease⟩ := ih ho (List.mem_of_head? hm)
        exact ⟨r, hgrow r hr, hlease⟩
      | _ => cases hseq
    · obtain ⟨r, hr, hlease⟩ := ih h.2 (List.mem_filterMap.2 ⟨e', he', hseq⟩)
      exact ⟨r, hgrow r hr, hlease⟩

theorem sequences_pairwise (h : Orderly history) (lease : Lease) :
    (sequences lease history).Pairwise (· > ·) := by
  induction history with
  | nil => exact .nil
  | cons e history ih =>
    obtain ⟨hf, ho⟩ := h
    unfold sequences
    rw [List.filterMap_cons]
    split
    · exact ih ho
    · next n hn =>
      refine List.pairwise_cons.2 ⟨fun m hm => ?_, ih ho⟩
      cases e with
      | registered b ch =>
        simp only [RegistryEvent.sequence?, Option.ite_none_right_eq_some] at hn
        -- a new connection: nothing was accepted on it before
        obtain ⟨r, hr, hlease⟩ := Orderly.registered_of_sequences ho hm
        refine absurd ?_ (hf r hr).1
        rw [← hn.1] at hlease
        exact congrArg Lease.connectionId hlease
      | accepted l sequence =>
        simp only [RegistryEvent.sequence?, Option.ite_none_right_eq_some] at hn
        obtain ⟨rfl, hn⟩ := hn
        cases hn
        obtain ⟨k, hk, hlt⟩ := hf
        cases hs : sequences l history with
        | nil =>
          rw [hs] at hk
          cases hk
        | cons x xs =>
          have hpair := ih ho
          have hm : m ∈ sequences l history := hm
          rw [hs] at hk hpair hm
          cases hk
          rcases List.mem_cons.1 hm with rfl | hm
          · exact hlt
          · exact lt_trans ((List.pairwise_cons.1 hpair).1 m hm) hlt
      | _ => cases hn

/-- No two connections share an id or a websocket. -/
theorem registrations_pairwise (h : Orderly history) :
    (registrations history).Pairwise fun x y =>
      y.1.connectionId ≠ x.1.connectionId ∧ y.2 ≠ x.2 := by
  induction history with
  | nil => exact .nil
  | cons e history ih =>
    obtain ⟨hf, ho⟩ := h
    cases e with
    | registered b ch => exact List.pairwise_cons.2 ⟨hf, ih ho⟩
    | _ => exact ih ho

theorem eq_of_channel (h : Orderly history)
    {x y : BoundExecutorConnection × ExecutorConnectionChannel} (hx : x ∈ registrations history)
    (hy : y ∈ registrations history) (hch : x.2 = y.2) : x = y := by
  have hnodup : ((registrations history).map Prod.snd).Nodup :=
    List.pairwise_map.2 (h.registrations_pairwise.imp fun hxy => hxy.2.symm)
  exact List.inj_on_of_nodup_map hnodup hx hy hch

theorem eq_of_lease (h : Orderly history)
    {x y : BoundExecutorConnection × ExecutorConnectionChannel} (hx : x ∈ registrations history)
    (hy : y ∈ registrations history) (hlease : x.1.lease = y.1.lease) : x = y := by
  have hnodup : ((registrations history).map fun r => r.1.connectionId).Nodup :=
    List.pairwise_map.2 (h.registrations_pairwise.imp fun hxy => hxy.1.symm)
  exact List.inj_on_of_nodup_map hnodup hx hy (congrArg Lease.connectionId hlease)

theorem registrations_nodup (h : Orderly history) : (registrations history).Nodup :=
  h.registrations_pairwise.imp fun hxy heq => hxy.2 (congrArg Prod.snd heq.symm)

theorem sent (h : Orderly history) {source : String}
    (he : .sent lease channel source ∈ history) :
    ∃ r ∈ registrations history, r.1.lease = lease ∧ r.2 = channel := by
  obtain ⟨earlier, hs, r, hr, hown⟩ := Chronicle.of_mem h he
  exact ⟨r, (registrations_suffix hs).subset hr, hown⟩

theorem closed (h : Orderly history) {frame : CloseFrame}
    (he : .closed (some lease) channel frame ∈ history) : Displaced lease channel history := by
  obtain ⟨earlier, hs, hf⟩ := Chronicle.of_mem h he
  exact Displaced.mono hf hs

end Orderly

/-- Of two members of a list without repetitions, only one comes first. -/
theorem not_before_and_after {α : Type} {l : List α} {x y : α} (hl : l.Nodup)
    (hxy : [x, y].Sublist l) (hyx : [y, x].Sublist l) : False := by
  induction l with
  | nil => cases hxy
  | cons a l ih =>
    obtain ⟨ha, hl⟩ := List.nodup_cons.1 hl
    cases hxy with
    | cons _ hxy =>
      cases hyx with
      | cons _ hyx => exact ih hl hxy hyx
      | cons_cons _ hyx => exact ha (hxy.subset (by simp))
    | cons_cons _ hxy =>
      cases hyx with
      | cons _ hyx => exact ha (hyx.subset (by simp))
      | cons_cons _ hyx => exact ha (hxy.subset (by simp))

theorem sublist_of_split {α : Type} {later earlier : List α} {x y : α} (hy : y ∈ earlier) :
    [x, y].Sublist (later ++ x :: earlier) :=
  ((List.singleton_sublist.2 hy).cons_cons x).trans (List.sublist_append_right _ _)

namespace Orderly

variable {history : List RegistryEvent} {lease : Lease} {channel : ExecutorConnectionChannel}
  {b : BoundExecutorConnection}

/-- What was sent for a lease went out on its own websocket. -/
theorem not_sent (h : Orderly history) (hs : Succeeds lease b channel history) (source : String) :
    .sent lease channel source ∉ history := by
  intro he
  obtain ⟨later, earlier, heq, -, r₀, hr₀, hlease₀⟩ := hs
  obtain ⟨r, hr, hlease, hch⟩ := h.sent he
  have hr₀' : r₀ ∈ registrations history := heq ▸ by simp [hr₀]
  have hb : (b, channel) ∈ registrations history := heq ▸ by simp
  have hown : r = r₀ := h.eq_of_lease hr hr₀' (hlease.trans hlease₀.symm)
  have hsame : r = (b, channel) := h.eq_of_channel hr hb hch
  have hnodup := h.registrations_nodup
  rw [heq] at hnodup
  have hfirst := (List.nodup_cons.1 (List.nodup_append.1 hnodup).2.1).1
  exact hfirst (hsame ▸ hown ▸ hr₀)

/-- What a registration closed was there before it. -/
theorem not_closed (h : Orderly history) (hs : Succeeds lease b channel history)
    (frame : CloseFrame) : .closed (some lease) channel frame ∉ history := by
  intro he
  obtain ⟨later, earlier, heq, -, r₀, hr₀, hlease₀⟩ := hs
  obtain ⟨later', r, earlier', b', heq', hlease, hb', -⟩ := h.closed he
  have hb : (b, channel) ∈ registrations history := heq ▸ by simp
  have hsame : (b', channel) = (b, channel) := h.eq_of_channel (heq' ▸ by simp [hb']) hb rfl
  have hown : r = r₀ :=
    h.eq_of_lease (heq' ▸ by simp) (heq ▸ by simp [hr₀]) (hlease.trans hlease₀.symm)
  subst hown
  rw [hsame] at hb'
  exact not_before_and_after h.registrations_nodup (heq' ▸ sublist_of_split hb')
    (heq ▸ sublist_of_split hr₀)

end Orderly

/-! ## The registry at every moment -/

/-- The lease of an operation other than a registration, or of an act on a websocket. -/
def RegistryOp.lease? : RegistryOp → Option Lease
  | .heartbeat lease _ _ | .isCurrent lease | .remove lease | .channelOf lease
  | .sendText lease _ _ => some lease
  | .close closer _ _ => closer
  | .insert .. | .clear | .network .. => none

theorem connections_of_superseded {s : ExecutorConnectionRegistry} {o : RegistryOp} {lease : Lease}
    (ho : o.lease? = some lease) (hs : s.isCurrent lease = false) :
    (exec o s).2.connections = s.connections := by
  cases o with
  | heartbeat l sequence now =>
    cases ho
    simp only [exec, heartbeat]
    cases hr : s.connections.lookup lease.installationId with
    | none => rfl
    | some r =>
      have hid : r.online.connectionId ≠ lease.connectionId := by
        intro hid
        simp [isCurrent, hr, hid] at hs
      simp only [if_pos hid]
  | remove l =>
    cases ho
    simp only [exec, remove, hs]
    rfl
  | insert => cases ho
  | clear => cases ho
  | network => cases ho
  | _ => rfl

structure Fenced (s : ExecutorConnectionRegistry) : Prop where
  /-- An installation serves the connection it registered last, while that one is held. -/
  current : ∀ lease channel,
    s.serving lease.installationId = some (lease.connectionId, channel) ↔
      Current lease channel s.history
  /-- Operations with the lease of a connection that is not the current one change no entry. -/
  unchanged : ∀ o lease, RegistryOp.lease? o = some lease → s.isCurrent lease = false →
    (exec o s).2.connections = s.connections
  /-- They neither send on the websocket of a successor nor close it. -/
  untouched : ∀ lease b channel, Succeeds lease b channel s.history →
    (∀ source, .sent lease channel source ∉ s.history) ∧
      ∀ frame, .closed (some lease) channel frame ∉ s.history
  /-- Latest first. -/
  sequences : ∀ lease, (sequences lease s.history).Pairwise (· > ·)

theorem tracks_empty : Tracks ExecutorConnectionRegistry.empty :=
  fun _ _ => ⟨fun h => (nomatch h), fun h => absurd h current_nil⟩

theorem registry_inductive :
    ((calls (· = ExecutorConnectionRegistry.empty) exec RegistryOp.ok).restrict
      fun c s => FreshHandshake c.1 s).Inductive
      fun s => Tracks s ∧ LastSequence s ∧ Orderly s.history := by
  constructor
  · rintro s rfl
    exact ⟨tracks_empty, fun _ _ h => (nomatch h), trivial⟩
  · intro s c s' ⟨ht, hl, ho⟩ ⟨⟨hok, hexec⟩, hfresh⟩
    have hstep := entryStep c.1 s
    rw [hexec] at hstep
    exact ⟨hstep.tracks ht, hstep.lastSequence hl, hstep.orderly hl hok hfresh ho⟩

/-- **Reconnects.** Whatever operations run, by whichever connections, and however their
sections interleave. -/
theorem registry_fenced {P : Pool ExecutorConnectionRegistry RegistryOp RegistryOp.Ret}
    (hP : ((pool (· = ExecutorConnectionRegistry.empty) exec RegistryOffered).restrict
      (PoolLabel.meets FreshHandshake)).Reachable P) : Fenced P.state := by
  have h0 : ∀ s, s = ExecutorConnectionRegistry.empty → Tracks s := by
    rintro _ rfl
    exact tracks_empty
  have hcalls := pool_calls registry_guarantee h0
    (fun p hp s ht => offered_safe hp s ht) FreshHandshake hP
  obtain ⟨ht, -, ho⟩ := registry_inductive.reachable hcalls
  exact
    { current := ht
      unchanged := fun _ _ hlease hs => connections_of_superseded hlease hs
      untouched := fun _ _ _ hs => ⟨ho.not_sent hs, ho.not_closed hs⟩
      sequences := ho.sequences_pairwise }

/-! ## Two connections -/

def handshake (id sequence : Nat) : BoundExecutorConnection where
  connectionId := id
  installationId := 7
  executorId := 1
  protocolVersion := "1"
  executorVersion := "1.0.0"
  platform := .macos
  architecture := .arm64
  helloSequence := sequence

/-- A send of the first connection is under way while the second one registers. -/
def reconnect : List (Turn RegistryOp RegistryOp.Ret) :=
  alone 0 (register (handshake 1 1) ⟨1⟩ 10 >>= fun _ => pure ()) 1 ++
    alone 1 (recordHeartbeat (handshake 1 1) 4 12 >>= fun _ => pure ()) 1 ++
    alone 2 (sendCurrent (handshake 1 1).lease "offer" >>= fun _ => pure ()) 1 ++
    alone 3 (register (handshake 2 1) ⟨2⟩ 15 >>= fun _ => pure ()) 2 ++ [.next 2, .next 2] ++
    alone 4 (unregister (handshake 1 1) >>= fun _ => pure ()) 1

theorem reconnect_fenced :
    Fenced (Pool.play exec reconnect ⟨ExecutorConnectionRegistry.empty, []⟩).2.state :=
  registry_fenced ⟨_, _, ⟨rfl, rfl⟩, Pool.run_play
    (by simp [reconnect, RegistryOffered.register, RegistryOffered.recordHeartbeat,
      RegistryOffered.sendCurrent, RegistryOffered.unregister]) (by decide)⟩

end AutomationTool.ControlPlane.Registry
