import ConnectionPool.Proofs.Server.Custody
import ConnectionPool.Proofs.Server.Desk
import ConnectionPool.Site
import Mathlib.Data.List.Perm.Basic

/-!
Contract: who is told that a server is busy, and what else comes of it.

A call that is answered that the server is busy is given at most one channel. Nobody but the call uses it, it is
told the message of the server there, and it is closed when the call returns. No other channel is told anything
by the server itself. Whatever the channel does, the call answers the same, and the pool goes on as if all had
been told.

Owns:
- `Desk.Sound`, what every turn keeps of calls and their channels;
- `Desk.RefusesProperly` and `Desk.refusesProperly_of_run`.

Does not own: the order in which a message is told; see `Refusal.Tells`.
-/

namespace ConnectionPool

namespace Desk

/-! ## What every turn keeps -/

/-- A channel that was given for a call: where the call stands, and what was done on the channel. -/
structure Told (message : Bytes) (desk : Desk) (number : Nat) (channel : DeskChannel) (caller : Nat) :
    Prop where
  call : ∃ stage state, desk.calls[caller]? = some { descriptor := channel.descriptor, stage } ∧
    Refusal.Course message channel.ofServer state ∧
    (stage = .telling number state ∧ channel.isOpen = true ∨
      stage = .answered .busy ∧ state = .finished ∧ channel.isOpen = false)
  sessions : channel.sessions = []
  ofSessions : channel.ofSessions = []

/-- A call that is still to refuse the connection of this descriptor. -/
def Refuses (descriptor : Descriptor) (call : DeskCall) : Bool :=
  call.stage.isRefusing && call.descriptor == descriptor

/-- The server itself says nothing on the channels of workers. -/
def SilentToWorkers (channels : List DeskChannel) : Prop :=
  ∀ channel ∈ channels, ∀ id, channel.holder = .worker id → channel.ofServer = []

/-- What every turn keeps of the calls and their channels. -/
structure Sound (message : Bytes) (desk : Desk) : Prop where
  silent : SilentToWorkers desk.channels
  told : ∀ {number : Nat} {channel : DeskChannel} {caller : Nat}, desk.channels[number]? = some channel →
    channel.holder = .call caller → Told message desk number channel caller
  /-- A call tells on a channel that it was given. -/
  telling : ∀ {caller number : Nat} {descriptor : Descriptor} {state : Refusal},
    desk.calls[caller]? = some { descriptor, stage := .telling number state } →
    ∃ channel, desk.channels[number]? = some channel ∧ channel.holder = .call caller
  /-- No call is given two channels. -/
  unique : ∀ {first second : Nat} {one other : DeskChannel} {caller : Nat},
    desk.channels[first]? = some one → desk.channels[second]? = some other →
    one.holder = .call caller → other.holder = .call caller → first = second
  refusals : ∀ descriptor,
    desk.server.refusals.count descriptor = desk.calls.countP (Refuses descriptor)

variable {terms : Terms} {message : Bytes} {desk next : Desk} {label : DeskLabel} {labels : List DeskLabel}
  {channels : List DeskChannel}

theorem Sound.new (message : Bytes) : Sound message {} where
  silent := nofun
  told := nofun
  telling := nofun
  unique := nofun
  refusals _ := rfl

/-! ## Channels in a turn of the pool -/

/-- The channels of calls are the same, at the same places. -/
def SameOfCalls (channels after : List DeskChannel) : Prop :=
  ∀ (number : Nat) (channel : DeskChannel) (caller : Nat), channel.holder = .call caller →
    (after[number]? = some channel ↔ channels[number]? = some channel)

theorem ofWorker_of_call {id : WorkerId} {change : DeskChannel → DeskChannel} {channel : DeskChannel}
    {caller : Nat} (held : channel.holder = .call caller) : channel.ofWorker id change = channel := by
  rw [DeskChannel.ofWorker, if_neg]
  rw [held]
  rintro ⟨⟨⟩, -⟩

theorem holder_ofWorker {id : WorkerId} {change : DeskChannel → DeskChannel}
    (keeps : ∀ channel, (change channel).holder = channel.holder) (channel : DeskChannel) :
    (channel.ofWorker id change).holder = channel.holder := by
  unfold DeskChannel.ofWorker
  split
  · exact keeps channel
  · rfl

theorem sameOfCalls_map {id : WorkerId} {change : DeskChannel → DeskChannel}
    (keeps : ∀ channel, (change channel).holder = channel.holder) :
    SameOfCalls channels (channels.map (DeskChannel.ofWorker id change)) := by
  intro number channel caller held
  rw [List.getElem?_map, Option.map_eq_some_iff]
  constructor
  · rintro ⟨before, found, rfl⟩
    rw [holder_ofWorker keeps] at held
    rwa [ofWorker_of_call held]
  · exact fun found => ⟨channel, found, ofWorker_of_call held⟩

theorem sameOfCalls_append {more : List DeskChannel} (others : ∀ channel ∈ more, ∀ caller,
    channel.holder ≠ .call caller) : SameOfCalls channels (channels ++ more) := by
  intro number channel caller held
  constructor
  · intro found
    by_cases inside : number < channels.length
    · rwa [List.getElem?_append_left inside] at found
    · rw [List.getElem?_append_right (Nat.le_of_not_lt inside)] at found
      exact absurd held (others channel (List.mem_of_getElem? found) caller)
  · intro found
    have inside := (List.getElem?_eq_some_iff.1 found).1
    rwa [List.getElem?_append_left inside]

theorem noteChannels_sameOfCalls (channels : List DeskChannel) (event : Event) :
    SameOfCalls channels (noteChannels channels event) := by
  cases event with
  | exchanged id descriptor granted =>
      refine sameOfCalls_append fun channel member caller => ?_
      cases granted with
      | true =>
          obtain rfl := List.mem_singleton.1 member
          nofun
      | false => cases member
  | began | skipped | ended => exact sameOfCalls_map fun _ => rfl
  | _ => exact fun _ _ _ _ => Iff.rfl

theorem noteAll_sameOfCalls (channels : List DeskChannel) (events : List Event) :
    SameOfCalls channels (events.foldl noteChannels channels) := by
  induction events generalizing channels with
  | nil => exact fun _ _ _ _ => Iff.rfl
  | cons event events inductionHypothesis =>
      intro number channel caller held
      exact (inductionHypothesis _ number channel caller held).trans
        (noteChannels_sameOfCalls channels event number channel caller held)

theorem SilentToWorkers.map {id : WorkerId} {change : DeskChannel → DeskChannel}
    (silent : SilentToWorkers channels) (keeps : ∀ channel, (change channel).holder = channel.holder)
    (saysNothing : ∀ channel, (change channel).ofServer = channel.ofServer) :
    SilentToWorkers (channels.map (DeskChannel.ofWorker id change)) := by
  intro channel member other held
  obtain ⟨before, earlier, rfl⟩ := List.mem_map.1 member
  rw [holder_ofWorker keeps] at held
  have said := silent before earlier other held
  unfold DeskChannel.ofWorker
  split
  · rwa [saysNothing]
  · exact said

theorem SilentToWorkers.note (silent : SilentToWorkers channels) (event : Event) :
    SilentToWorkers (noteChannels channels event) := by
  cases event with
  | exchanged id descriptor granted =>
      intro channel member other held
      obtain earlier | new := List.mem_append.1 member
      · exact silent channel earlier other held
      · cases granted with
        | true =>
            obtain rfl := List.mem_singleton.1 new
            rfl
        | false => cases new
  | began | skipped | ended => exact silent.map (fun _ => rfl) fun _ => rfl
  | _ => exact silent

theorem SilentToWorkers.noteAll (silent : SilentToWorkers channels) (events : List Event) :
    SilentToWorkers (events.foldl noteChannels channels) := by
  induction events generalizing channels with
  | nil => exact silent
  | cons event events inductionHypothesis => exact inductionHypothesis (silent.note event)

/-! ## Channels of which one changes -/

theorem exists_of_modify {change : DeskChannel → DeskChannel} {place number : Nat} {channel : DeskChannel}
    (found : (channels.modify place change)[number]? = some channel) :
    ∃ before, channels[number]? = some before ∧
      channel = if place = number then change before else before := by
  rw [List.getElem?_modify] at found
  obtain ⟨before, isFound, rfl⟩ := Option.map_eq_some_iff.1 found
  exact ⟨before, isFound, rfl⟩

theorem exists_held_modify {change : DeskChannel → DeskChannel} {place number : Nat} {holder : ChannelHolder}
    (keeps : ∀ channel, (change channel).holder = channel.holder)
    (given : ∃ channel, channels[number]? = some channel ∧ channel.holder = holder) :
    ∃ channel, (channels.modify place change)[number]? = some channel ∧ channel.holder = holder := by
  obtain ⟨channel, found, rfl⟩ := given
  refine ⟨if place = number then change channel else channel, by rw [List.getElem?_modify, found]; rfl, ?_⟩
  split
  · exact keeps channel
  · rfl

theorem exists_holder_of_modify {change : DeskChannel → DeskChannel} {place number : Nat}
    {channel : DeskChannel} (keeps : ∀ channel, (change channel).holder = channel.holder)
    (found : (channels.modify place change)[number]? = some channel) :
    ∃ before, channels[number]? = some before ∧ before.holder = channel.holder := by
  obtain ⟨before, isFound, rfl⟩ := exists_of_modify found
  refine ⟨before, isFound, ?_⟩
  split
  · exact (keeps before).symm
  · rfl

theorem SilentToWorkers.modify {change : DeskChannel → DeskChannel} {place : Nat}
    (silent : SilentToWorkers channels) (keeps : ∀ channel, (change channel).holder = channel.holder)
    (saysNothing : ∀ channel, (change channel).ofServer = channel.ofServer) :
    SilentToWorkers (channels.modify place change) := by
  intro channel member id held
  obtain ⟨number, found⟩ := List.mem_iff_getElem?.1 member
  obtain ⟨before, there, rfl⟩ := exists_of_modify found
  have said := silent before (List.mem_of_getElem? there) id
  by_cases here : place = number
  · rw [if_pos here] at held ⊢
    rw [keeps] at held
    rw [saysNothing, said held]
  · rw [if_neg here] at held ⊢
    exact said held

/-! ## One turn -/

theorem Told.keep {number caller : Nat} {channel : DeskChannel} (told : Told message desk number channel caller)
    (same : next.calls[caller]? = desk.calls[caller]?) : Told message next number channel caller := by
  obtain ⟨stage, state, found, rest⟩ := told.call
  exact ⟨⟨stage, state, same.trans found, rest⟩, told.sessions, told.ofSessions⟩

/-- A call that was given a channel tells on it, or has told. -/
theorem Told.stage_eq {number caller : Nat} {channel : DeskChannel} {descriptor : Descriptor}
    {stage : CallStage} (told : Told message desk number channel caller)
    (found : desk.calls[caller]? = some { descriptor, stage }) :
    (∃ state, stage = .telling number state) ∨ stage = .answered .busy := by
  obtain ⟨other, state, foundToo, -, stands⟩ := told.call
  rw [foundToo] at found
  cases found
  obtain ⟨rfl, -⟩ | ⟨rfl, -⟩ := stands
  · exact .inl ⟨state, rfl⟩
  · exact .inr rfl

/-- A call that has not asked for a channel has none. -/
theorem Sound.not_given {number caller other : Nat} {channel : DeskChannel} {descriptor : Descriptor}
    {stage : CallStage} (sound : Sound message desk) (found : desk.channels[number]? = some channel)
    (held : channel.holder = .call caller) (stands : desk.calls[other]? = some { descriptor, stage })
    (early : stage = .undecided ∨ stage = .refusing) : other ≠ caller := by
  rintro rfl
  obtain ⟨state, rfl⟩ | rfl := (sound.told found held).stage_eq stands
  all_goals rcases early with early | early <;> cases early

/-- The channel on which a call tells: it is its own, and what was done on it has come as far as the call. -/
theorem Sound.course_of_telling {caller number : Nat} {descriptor : Descriptor} {state : Refusal}
    {channel : DeskChannel} (sound : Sound message desk)
    (stands : desk.calls[caller]? = some { descriptor, stage := .telling number state })
    (found : desk.channels[number]? = some channel) :
    channel.holder = .call caller ∧ channel.descriptor = descriptor ∧
      Refusal.Course message channel.ofServer state ∧ channel.sessions = [] ∧ channel.ofSessions = [] ∧
      channel.isOpen = true := by
  obtain ⟨_, foundToo, held⟩ := sound.telling stands
  obtain rfl := Option.some.inj (found.symm.trans foundToo)
  have told := sound.told found held
  obtain ⟨stage, reached, standsToo, course, ⟨rfl, isOpen⟩ | ⟨rfl, -⟩⟩ := told.call
  · obtain ⟨same, -, rfl⟩ : channel.descriptor = descriptor ∧ number = number ∧ reached = state := by
      simpa using standsToo.symm.trans stands
    exact ⟨held, same, course, told.sessions, told.ofSessions, isOpen⟩
  · cases standsToo.symm.trans stands

theorem Sound.ne_of_telling {caller teller number place : Nat} {descriptor : Descriptor} {state : Refusal}
    {channel : DeskChannel} (sound : Sound message desk)
    (stands : desk.calls[teller]? = some { descriptor, stage := .telling place state })
    (found : desk.channels[number]? = some channel) (held : channel.holder = .call caller)
    (elsewhere : place ≠ number) : teller ≠ caller := by
  rintro rfl
  obtain ⟨_, there, own⟩ := sound.telling stands
  exact elsewhere (sound.unique there found own held)

theorem Sound.told_step (sound : Sound message desk) (step : Step terms message desk label next)
    {number caller : Nat} {channel : DeskChannel} (found : next.channels[number]? = some channel)
    (held : channel.holder = .call caller) : Told message next number channel caller := by
  cases step with
  | turn =>
      have before := (noteAll_sameOfCalls _ _ number channel caller held).1 found
      exact (sound.told before held).keep rfl
  | arrive =>
      have told := sound.told found held
      obtain ⟨_, _, stands, -⟩ := told.call
      exact told.keep (List.getElem?_append_left (List.getElem?_eq_some_iff.1 stands).1)
  | decide stands =>
      have other := sound.not_given found held stands (.inl rfl)
      exact (sound.told found held).keep (List.getElem?_set_ne other)
  | deny stands =>
      have other := sound.not_given found held stands (.inr rfl)
      exact (sound.told found held).keep (List.getElem?_set_ne other)
  | grant stands =>
      obtain inside | rfl | outside := Nat.lt_trichotomy number desk.channels.length
      · rw [List.getElem?_append_left inside] at found
        have other := sound.not_given found held stands (.inr rfl)
        exact (sound.told found held).keep (List.getElem?_set_ne other)
      · rw [List.getElem?_concat_length] at found
        cases found
        cases held
        have inside := (List.getElem?_eq_some_iff.1 stands).1
        exact ⟨⟨_, _, List.getElem?_set_self inside, .start, .inl ⟨rfl, rfl⟩⟩, rfl, rfl⟩
      · rw [List.getElem?_eq_none (by simpa using Nat.succ_le_of_lt outside)] at found
        cases found
  | @tell teller place descriptor state _ event stands meets =>
      obtain ⟨before, earlier, rfl⟩ := exists_of_modify found
      by_cases here : place = number
      · subst here
        rw [if_pos rfl] at held ⊢
        obtain ⟨own, rfl, course, noSession, unused, isOpen⟩ := sound.course_of_telling stands earlier
        cases own.symm.trans held
        have inside := (List.getElem?_eq_some_iff.1 stands).1
        exact ⟨⟨_, _, List.getElem?_set_self inside, course.step meets, .inl ⟨rfl, isOpen⟩⟩, noSession,
          unused⟩
      · rw [if_neg here] at held ⊢
        exact (sound.told earlier held).keep
          (List.getElem?_set_ne (sound.ne_of_telling stands earlier held here))
  | @close teller place descriptor _ _ stands =>
      obtain ⟨before, earlier, rfl⟩ := exists_of_modify found
      by_cases here : place = number
      · subst here
        rw [if_pos rfl] at held ⊢
        obtain ⟨own, rfl, course, noSession, unused, -⟩ := sound.course_of_telling stands earlier
        cases own.symm.trans held
        have inside := (List.getElem?_eq_some_iff.1 stands).1
        exact ⟨⟨_, _, List.getElem?_set_self inside, course, .inr ⟨rfl, rfl, rfl⟩⟩, noSession, unused⟩
      · rw [if_neg here] at held ⊢
        exact (sound.told earlier held).keep
          (List.getElem?_set_ne (sound.ne_of_telling stands earlier held here))
  | @converse place id worker _ _ there ofWorker =>
      obtain ⟨before, earlier, rfl⟩ := exists_of_modify found
      by_cases here : place = number
      · subst here
        rw [if_pos rfl] at held
        obtain rfl := Option.some.inj (earlier.symm.trans there)
        cases ofWorker.symm.trans held
      · rw [if_neg here] at held ⊢
        exact (sound.told earlier held).keep rfl

theorem of_getElem?_set {α : Type} {items : List α} {place number : Nat} {item found : α}
    (isFound : (items.set place item)[number]? = some found) :
    place = number ∧ found = item ∨ place ≠ number ∧ items[number]? = some found := by
  by_cases here : place = number
  · subst here
    obtain ⟨inside, isItem⟩ := List.getElem?_eq_some_iff.1 isFound
    rw [List.getElem_set_self] at isItem
    exact .inl ⟨rfl, isItem.symm⟩
  · rw [List.getElem?_set_ne here] at isFound
    exact .inr ⟨here, isFound⟩

theorem decided_ne_telling {outcome : Dispatch} {number : Nat} {state : Refusal} :
    .telling number state ≠ CallStage.decided outcome := by
  cases outcome <;> nofun

theorem Sound.telling_step (sound : Sound message desk) (step : Step terms message desk label next)
    {caller number : Nat} {descriptor : Descriptor} {state : Refusal}
    (stands : next.calls[caller]? = some { descriptor, stage := .telling number state }) :
    ∃ channel, next.channels[number]? = some channel ∧ channel.holder = .call caller := by
  cases step with
  | turn =>
      obtain ⟨channel, found, held⟩ := sound.telling stands
      exact ⟨channel, (noteAll_sameOfCalls _ _ number channel caller held).2 found, held⟩
  | arrive =>
      by_cases inside : caller < desk.calls.length
      · rw [List.getElem?_append_left inside] at stands
        exact sound.telling stands
      · rw [List.getElem?_append_right (Nat.le_of_not_lt inside)] at stands
        cases List.mem_singleton.1 (List.mem_of_getElem? stands)
  | decide =>
      obtain ⟨-, same⟩ | ⟨-, earlier⟩ := of_getElem?_set stands
      · exact absurd (congrArg DeskCall.stage same) decided_ne_telling
      · exact sound.telling earlier
  | deny =>
      obtain ⟨-, same⟩ | ⟨-, earlier⟩ := of_getElem?_set stands
      · cases same
      · exact sound.telling earlier
  | grant =>
      obtain ⟨rfl, same⟩ | ⟨-, earlier⟩ := of_getElem?_set stands
      · cases same
        exact ⟨_, List.getElem?_concat_length, rfl⟩
      · obtain ⟨channel, found, held⟩ := sound.telling earlier
        have inside := (List.getElem?_eq_some_iff.1 found).1
        exact ⟨channel, (List.getElem?_append_left inside).trans found, held⟩
  | tell there =>
      obtain ⟨rfl, same⟩ | ⟨-, earlier⟩ := of_getElem?_set stands
      · cases same
        exact exists_held_modify (fun _ => rfl) (sound.telling there)
      · exact exists_held_modify (fun _ => rfl) (sound.telling earlier)
  | close =>
      obtain ⟨-, same⟩ | ⟨-, earlier⟩ := of_getElem?_set stands
      · cases same
      · exact exists_held_modify (fun _ => rfl) (sound.telling earlier)
  | converse => exact exists_held_modify (fun _ => rfl) (sound.telling stands)

theorem Sound.unique_step (sound : Sound message desk) (step : Step terms message desk label next)
    {first second caller : Nat} {one other : DeskChannel} (foundOne : next.channels[first]? = some one)
    (foundOther : next.channels[second]? = some other) (held : one.holder = .call caller)
    (heldToo : other.holder = .call caller) : first = second := by
  have ofModify {place : Nat} {change : DeskChannel → DeskChannel}
      (keeps : ∀ channel, (change channel).holder = channel.holder)
      (isOne : (desk.channels.modify place change)[first]? = some one)
      (isOther : (desk.channels.modify place change)[second]? = some other) : first = second := by
    obtain ⟨before, found, same⟩ := exists_holder_of_modify keeps isOne
    obtain ⟨beforeToo, foundToo, sameToo⟩ := exists_holder_of_modify keeps isOther
    exact sound.unique found foundToo (same.trans held) (sameToo.trans heldToo)
  cases step with
  | turn =>
      exact sound.unique ((noteAll_sameOfCalls _ _ first one caller held).1 foundOne)
        ((noteAll_sameOfCalls _ _ second other caller heldToo).1 foundOther) held heldToo
  | arrive | decide | deny => exact sound.unique foundOne foundOther held heldToo
  | @grant number descriptor stands =>
      have ofNew {place : Nat} {channel : DeskChannel} (isFound : (desk.channels ++
          [{ descriptor, holder := .call number }])[place]? = some channel)
          (isHeld : channel.holder = .call caller) :
          desk.channels[place]? = some channel ∧ number ≠ caller ∨
            place = desk.channels.length ∧ number = caller := by
        by_cases inside : place < desk.channels.length
        · rw [List.getElem?_append_left inside] at isFound
          exact .inl ⟨isFound, sound.not_given isFound isHeld stands (.inr rfl)⟩
        · have within := (List.getElem?_eq_some_iff.1 isFound).1
          rw [List.length_append, List.length_singleton] at within
          obtain rfl : place = desk.channels.length := by omega
          rw [List.getElem?_concat_length] at isFound
          cases isFound
          cases isHeld
          exact .inr ⟨rfl, rfl⟩
      obtain ⟨earlier, differs⟩ | ⟨last, same⟩ := ofNew foundOne held
      · obtain ⟨earlierToo, -⟩ | ⟨-, same⟩ := ofNew foundOther heldToo
        · exact sound.unique earlier earlierToo held heldToo
        · exact absurd same differs
      · obtain ⟨-, differs⟩ | ⟨lastToo, -⟩ := ofNew foundOther heldToo
        · exact absurd same differs
        · exact last.trans lastToo.symm
  | tell | close | converse =>
      refine ofModify ?_ foundOne foundOther
      exact fun _ => rfl

theorem Sound.silent_step (sound : Sound message desk) (step : Step terms message desk label next) :
    SilentToWorkers next.channels := by
  cases step with
  | turn => exact sound.silent.noteAll _
  | arrive | decide | deny => exact sound.silent
  | grant =>
      intro channel member id held
      obtain before | new := List.mem_append.1 member
      · exact sound.silent channel before id held
      · cases List.mem_singleton.1 new
        cases held
  | @tell _ place _ _ _ _ stands =>
      intro channel member id held
      obtain ⟨number, found⟩ := List.mem_iff_getElem?.1 member
      obtain ⟨before, there, rfl⟩ := exists_of_modify found
      by_cases here : place = number
      · subst here
        rw [if_pos rfl] at held
        cases (sound.course_of_telling stands there).1.symm.trans held
      · rw [if_neg here] at held ⊢
        exact sound.silent before (List.mem_of_getElem? there) id held
  | close | converse => exact sound.silent.modify (fun _ => rfl) fun _ => rfl

/-! ## The connections that are still to be refused -/

theorem countP_set_add {calls : List DeskCall} {number : Nat} {call : DeskCall}
    (found : calls[number]? = some call) (property : DeskCall → Bool) (changed : DeskCall) :
    (calls.set number changed).countP property + (property call).toNat =
      calls.countP property + (property changed).toNat := by
  obtain ⟨inside, rfl⟩ := List.getElem?_eq_some_iff.1 found
  rw [(List.set_perm_cons_eraseIdx inside changed).countP_eq property,
    ← (List.getElem_cons_eraseIdx_perm inside).countP_eq property, List.countP_cons, List.countP_cons]
  cases property changed <;> cases property calls[number] <;> simp

theorem refusals_of_other {server after : Server} {label : Label} {events : List Event}
    (step : server.Step terms label events after) (other : label.isOfCall = false) :
    after.refusals = server.refusals := by
  cases step <;> first | rfl | cases other

/-- A decision adds the connection to those that are to be refused exactly if the server is busy. -/
theorem refusals_of_decide {server after : Server} {descriptor : Descriptor} {starts : Bool}
    {outcome : Dispatch} {events : List Event}
    (step : server.Step terms (.decide descriptor starts) (.decided descriptor outcome :: events) after) :
    after.refusals =
      server.refusals ++ if (CallStage.decided outcome).isRefusing then [descriptor] else [] := by
  cases step with
  | busy => rfl
  | _ => exact (List.append_nil _).symm

theorem count_refusals_of_refuse {server after : Server} {descriptor : Descriptor} {events : List Event}
    (step : server.Step terms (.refuse descriptor) events after) (other : Descriptor) :
    after.refusals.count other + [descriptor].count other = server.refusals.count other := by
  cases step with
  | refuse waits => exact Server.count_erase_add waits other

theorem toNat_refuses (descriptor other : Descriptor) (stage : CallStage) :
    (Refuses descriptor ⟨other, stage⟩).toNat =
      if stage.isRefusing then [other].count descriptor else 0 := by
  cases refuses : stage.isRefusing <;> by_cases same : other = descriptor <;> simp [Refuses, refuses, same]

theorem Sound.refusals_step (sound : Sound message desk) (step : Step terms message desk label next)
    (descriptor : Descriptor) :
    next.server.refusals.count descriptor = next.calls.countP (Refuses descriptor) := by
  have before := sound.refusals descriptor
  have ofSet {number : Nat} {other : Descriptor} {stage : CallStage} (later : CallStage)
      (found : desk.calls[number]? = some ⟨other, stage⟩) :=
    countP_set_add found (Refuses descriptor) ⟨other, later⟩
  simp only [toNat_refuses] at ofSet
  cases step with
  | turn other step => rw [refusals_of_other step other, before]
  | arrive step =>
      cases step
      simpa [Refuses, CallStage.isRefusing] using before
  | @decide _ _ _ outcome _ _ found step =>
      have changed := ofSet (.decided outcome) found
      rw [if_neg (by decide), Nat.add_zero] at changed
      dsimp only
      rw [refusals_of_decide step, List.count_append, before, changed]
      cases (CallStage.decided outcome).isRefusing <;> rfl
  | deny found step | close found step =>
      have changed := ofSet (.answered .busy) found
      have left := count_refusals_of_refuse step descriptor
      simp only [CallStage.isRefusing, Bool.false_eq_true, if_false, if_true] at changed
      dsimp only
      omega
  | grant found =>
      have changed := ofSet (.telling desk.channels.length (Refusal.start message)) found
      simp only [CallStage.isRefusing, if_true] at changed
      dsimp only
      omega
  | @tell _ number _ _ later _ found =>
      have changed := ofSet (.telling number later) found
      simp only [CallStage.isRefusing, if_true] at changed
      dsimp only
      omega
  | converse => exact before

theorem Sound.step (sound : Sound message desk) (step : Step terms message desk label next) :
    Sound message next where
  silent := sound.silent_step step
  told := sound.told_step step
  telling := sound.telling_step step
  unique := sound.unique_step step
  refusals := sound.refusals_step step

theorem Run.sound (run : Run terms message labels desk) : Sound message desk := by
  induction run with
  | new => exact .new message
  | step _ step inductionHypothesis => exact inductionHypothesis.step step

/-! ## How a call goes on -/

theorem Sound.mem_refusals {caller : Nat} {descriptor : Descriptor} {stage : CallStage}
    (sound : Sound message desk) (stands : desk.calls[caller]? = some { descriptor, stage })
    (refuses : stage.isRefusing = true) : descriptor ∈ desk.server.refusals := by
  rw [← List.count_pos_iff, sound.refusals, List.countP_pos_iff]
  exact ⟨_, List.mem_of_getElem? stands, by simp [Refuses, refuses]⟩

theorem Sound.exists_ask {caller : Nat} {descriptor : Descriptor} (terms : Terms) (sound : Sound message desk)
    (stands : desk.calls[caller]? = some { descriptor, stage := .refusing }) (granted : Bool) :
    ∃ next, Step terms message desk (.ask caller granted) next := by
  cases granted with
  | true => exact ⟨_, .grant stands⟩
  | false => exact ⟨_, .deny stands (.refuse (sound.mem_refusals stands rfl))⟩

theorem Sound.exists_close {caller number : Nat} {descriptor : Descriptor} (terms : Terms)
    (sound : Sound message desk)
    (stands : desk.calls[caller]? = some { descriptor, stage := .telling number .finished }) :
    ∃ next, Step terms message desk (.close caller) next :=
  ⟨_, .close stands (.refuse (sound.mem_refusals stands rfl))⟩

/-- What was decided about a connection stays decided. -/
theorem Step.outcome?_eq (step : Step terms message desk label next) {caller : Nat} {call : DeskCall}
    {outcome : Dispatch} (found : desk.calls[caller]? = some call)
    (decided : call.stage.outcome? = some outcome) :
    ∃ later, next.calls[caller]? = some later ∧ later.stage.outcome? = some outcome := by
  have ofSet {number : Nat} {descriptor : Descriptor} {before : CallStage} (after : CallStage)
      (stands : desk.calls[number]? = some ⟨descriptor, before⟩)
      (same : ∀ outcome, before.outcome? = some outcome → after.outcome? = some outcome) :
      ∃ later, (desk.calls.set number ⟨descriptor, after⟩)[caller]? = some later ∧
        later.stage.outcome? = some outcome := by
    by_cases here : number = caller
    · subst here
      obtain rfl := Option.some.inj (found.symm.trans stands)
      exact ⟨_, List.getElem?_set_self (List.getElem?_eq_some_iff.1 found).1, same _ decided⟩
    · exact ⟨call, (List.getElem?_set_ne here).trans found, decided⟩
  cases step with
  | turn | converse => exact ⟨call, found, decided⟩
  | arrive =>
      have inside := (List.getElem?_eq_some_iff.1 found).1
      exact ⟨call, (List.getElem?_append_left inside).trans found, decided⟩
  | decide stands => exact ofSet _ stands nofun
  | deny stands | grant stands | tell stands | close stands => exact ofSet _ stands fun _ => id

/-- A call that has told all of its message, and only has to push it out, may succeed. -/
theorem Run.exists_pushed (run : Run terms message labels desk) {caller number : Nat}
    {descriptor : Descriptor} {channel : DeskChannel}
    (stands : desk.calls[caller]? = some { descriptor, stage := .telling number .flushing })
    (found : desk.channels[number]? = some channel) :
    ∃ other, Run terms message (labels ++ [.tell caller (.flush .done), .close caller]) other ∧
      other.calls[caller]? = some { descriptor, stage := .answered .busy } ∧
      other.channels[number]? =
        some { channel with ofServer := channel.ofServer ++ [.flush .done], isOpen := false } := by
  have inside := (List.getElem?_eq_some_iff.1 stands).1
  have flushed := run.step (.tell stands (.flush _ .done))
  have stillStands : (desk.calls.set caller ⟨descriptor, .telling number .finished⟩)[caller]? = some _ :=
    List.getElem?_set_self inside
  have closes := flushed.sound.mem_refusals stillStands rfl
  have closed := flushed.step (.close stillStands (.refuse closes))
  rw [List.append_assoc] at closed
  refine ⟨_, closed, ?_, ?_⟩
  · exact List.getElem?_set_self (by simpa using inside)
  · simp [found, DeskChannel.close]

theorem getElem?_modify_concat {α : Type} (items : List α) (item : α) (change : α → α) :
    ((items ++ [item]).modify items.length change)[items.length]? = some (change item) := by
  simp

/-- A channel on which the whole message was told, and which was closed behind it. -/
structure HasHeard (message : Bytes) (channel : DeskChannel) : Prop where
  whole : SessionEvent.accepted channel.ofServer = message
  unbroken : channel.ofServer.any SessionEvent.breaks = false
  pushed : channel.ofServer.getLast? = some (.flush .done)
  closed : channel.isOpen = false

/-- A call that has not asked for a channel yet may be given one and tell the whole message. -/
theorem Run.exists_told (run : Run terms message labels desk) {caller : Nat} {descriptor : Descriptor}
    (stands : desk.calls[caller]? = some { descriptor, stage := .refusing }) :
    ∃ more other channel, Run terms message (labels ++ more) other ∧
      (∀ label ∈ more, label.isOfChannel = true) ∧
      other.calls[caller]? = some { descriptor, stage := .answered .busy } ∧
      other.channels[desk.channels.length]? = some channel ∧ channel.holder = .call caller ∧
      HasHeard message channel := by
  have inside := (List.getElem?_eq_some_iff.1 stands).1
  have granted := run.step (.grant stands)
  have found : (desk.channels ++ [{ descriptor, holder := .call caller }])[desk.channels.length]? =
      some { descriptor, holder := .call caller } := List.getElem?_concat_length
  have stillStands (state : Refusal) : (desk.calls.set caller
      ⟨descriptor, .telling desk.channels.length state⟩)[caller]? = some _ := List.getElem?_set_self inside
  cases message with
  | nil =>
      obtain ⟨other, pushed, answered, heard⟩ := granted.exists_pushed (stillStands _) found
      rw [List.append_assoc] at pushed
      refine ⟨_, other, _, pushed, ?_, answered, heard, rfl, ⟨rfl, rfl, rfl, rfl⟩⟩
      simp [DeskLabel.isOfChannel]
  | cons byte bytes =>
      have told := granted.step
        (.tell (stillStands _) (.write _ _ (.accepted (byte :: bytes).length) (Nat.le_refl _)))
      have whole : Refusal.afterWrite (byte :: bytes) (.accepted (byte :: bytes).length) = .flushing := by
        simp [Refusal.afterWrite, Delivery.advance]
      rw [whole] at told
      obtain ⟨other, pushed, answered, heard⟩ :=
        told.exists_pushed (List.getElem?_set_self (by simpa using inside)) (getElem?_modify_concat ..)
      rw [List.append_assoc, List.append_assoc] at pushed
      refine ⟨_, other, _, pushed, ?_, answered, heard, rfl, ⟨?_, rfl, rfl, rfl⟩⟩
      · simp [DeskLabel.isOfChannel]
      · simp [SessionEvent.accepted, SessionEvent.taken, Delivery.taken]

/-! ## Refusals -/

/-- What is asked of a server that is busy, with everything that channels and the transport may do. -/
structure RefusesProperly (options : Options) (ofProtocol : Option Bytes) (terms : Terms) (message : Bytes)
    (labels : List DeskLabel) (desk : Desk) : Prop where
  /-- The message of the options comes first, even an empty one, then that of the protocol. -/
  message_eq : (∀ text, options.busyMessage = some text → message = text) ∧
    (options.busyMessage = none → ∀ text, ofProtocol = some text → message = text) ∧
    (options.busyMessage = none → ofProtocol = none → message = genericBusyMessage)
  /-- A call that was given a channel is answered that the server is busy. It tells nothing but the message
  there, no session is held there, and the channel is closed when the call returns. -/
  told : ∀ (number : Nat) (channel : DeskChannel) (caller : Nat), desk.channels[number]? = some channel →
    channel.holder = .call caller →
    ∃ stage state, desk.calls[caller]? = some { descriptor := channel.descriptor, stage } ∧
      stage.outcome? = some .busy ∧ Refusal.Tells message channel.ofServer state ∧
      channel.sessions = [] ∧ channel.ofSessions = [] ∧
      (stage = .telling number state ∧ channel.isOpen = true ∨
        stage = .answered .busy ∧ state = .finished ∧ channel.isOpen = false)
  /-- The same is so of a line in memory. -/
  ofLine : ∀ line : Line, ∃ events, Refusal.Tells message events .finished ∧
    (line.refuse message).outbound = line.outbound ++ SessionEvent.accepted events ∧
    (line.refuse message).isOpen = false
  /-- No call is given two channels. -/
  once : ∀ (first second : Nat) (one other : DeskChannel) (caller : Nat),
    desk.channels[first]? = some one → desk.channels[second]? = some other →
    one.holder = .call caller → other.holder = .call caller → first = second
  /-- Nobody else is told anything by the server itself. -/
  silent : ∀ channel ∈ desk.channels, ∀ id, channel.holder = .worker id → channel.ofServer = []
  /-- A call answers what was decided, whatever happens behind the decision. -/
  answered : ∀ label next, Step terms message desk label next →
    ∀ (caller : Nat) (call : DeskCall) (outcome : Dispatch),
    desk.calls[caller]? = some call → call.stage.outcome? = some outcome →
    ∃ later, next.calls[caller]? = some later ∧ later.stage.outcome? = some outcome
  /-- The transport may give a channel or none. -/
  asks : ∀ (caller : Nat) (descriptor : Descriptor),
    desk.calls[caller]? = some { descriptor, stage := .refusing } →
    ∀ granted, ∃ next, Step terms message desk (.ask caller granted) next
  /-- The channel may answer anything. -/
  tells : ∀ (caller number : Nat) (descriptor : Descriptor) (state : Refusal),
    desk.calls[caller]? = some { descriptor, stage := .telling number state } →
    (∀ event later, state.request.Meets event later →
        ∃ next, Step terms message desk (.tell caller event) next) ∧
      (state = .finished → ∃ next, Step terms message desk (.close caller) next) ∧
      (state = .finished ∨ ∃ event later, state.request.Meets event later)
  /-- A refusal may succeed. -/
  mayTell : ∀ (caller : Nat) (descriptor : Descriptor),
    desk.calls[caller]? = some { descriptor, stage := .refusing } →
    ∃ more other channel, Run terms message (labels ++ more) other ∧
      (∀ label ∈ more, label.isOfChannel = true) ∧
      other.calls[caller]? = some { descriptor, stage := .answered .busy } ∧
      other.channels[desk.channels.length]? = some channel ∧ channel.holder = .call caller ∧
      HasHeard message channel
  /-- Whether it does or not, the server goes on as it was. -/
  frame : ∀ label next, Step terms message desk label next → label.isOfChannel = true →
    next.server = { desk.server with refusals := next.server.refusals }
  /-- Where the pool took the same turns, it is the same, and so is every answer, whatever became of the
  refusals. -/
  undisturbed : ∀ others other, Run terms message others other →
    (others.filter fun label => !label.isOfChannel) = (labels.filter fun label => !label.isOfChannel) →
    other.outline = desk.outline

theorem exists_meets (state : Refusal) :
    state = .finished ∨ ∃ event later, state.request.Meets event later := by
  cases state with
  | telling rest => exact .inr ⟨_, _, .write rest _ (.accepted 0) (Nat.zero_le _)⟩
  | flushing => exact .inr ⟨_, _, .flush _ .done⟩
  | finished => exact .inl rfl

/-- A server that was made of options and a protocol refuses connections properly, whatever else goes on. -/
theorem refusesProperly_of_run {options : Options} {protocol : Protocol} {ofProtocol : Option Bytes}
    {live : LiveServer} (isNew : LiveServer.new options protocol ofProtocol = .ok live)
    (run : Run live.terms live.message labels desk) :
    RefusesProperly options ofProtocol live.terms live.message labels desk := by
  have isMessage : live.message = busyMessage options.busyMessage ofProtocol := by
    unfold LiveServer.new at isNew
    split at isNew
    · cases isNew
    · cases isNew
      rfl
  have sound := run.sound
  constructor
  case message_eq =>
    rw [isMessage, busyMessage]
    refine ⟨?_, ?_, ?_⟩
    · rintro text same
      simp [same]
    · rintro none text same
      simp [none, same]
    · rintro none noneToo
      simp [none, noneToo]
  case told =>
    intro number channel caller found held
    have told := sound.told found held
    obtain ⟨stage, state, stands, course, standing⟩ := told.call
    refine ⟨stage, state, stands, ?_, course.tells, told.sessions, told.ofSessions, standing⟩
    obtain ⟨rfl, -⟩ | ⟨rfl, -⟩ := standing <;> rfl
  case ofLine =>
    intro line
    obtain ⟨events, course, isWritten, isClosed⟩ := line.refuse_course live.message
    exact ⟨events, course.tells, isWritten, isClosed⟩
  case once => exact fun _ _ _ _ _ => sound.unique
  case silent => exact sound.silent
  case answered => exact fun _ _ step _ _ _ => step.outcome?_eq
  case asks => exact fun _ _ => sound.exists_ask live.terms
  case tells =>
    intro caller number descriptor state stands
    refine ⟨fun event later meets => ⟨_, .tell stands meets⟩, ?_, exists_meets state⟩
    rintro rfl
    exact sound.exists_close live.terms stands
  case mayTell => exact fun _ _ => run.exists_told
  case frame => exact fun _ _ step => step.server_eq
  case undisturbed =>
    intro others other otherRun same
    have outline := otherRun.outline
    rw [same, run.outline] at outline
    exact (Option.some.inj outline).symm

/-- With one worker and nobody waiting: the first of four connections is served. Another one takes the message in
pieces, one takes nothing of it, and of one there is no channel. -/
theorem refusesProperly_of_three_refusals :
    ∃ live labels desk,
      LiveServer.new { maxWorkers := 1, busyMessage := some [1, 2, 3] } .echo (some [9]) = .ok live ∧
      Run live.terms live.message labels desk ∧
      desk.calls.map (fun call => call.stage.outcome?) =
        [some (.spawned 1), some .busy, some .busy, some .busy] ∧
      desk.channels.map (fun channel => (channel.descriptor.handle, SessionEvent.accepted channel.ofServer)) =
        [(8, [1, 2, 3]), (9, [])] ∧
      RefusesProperly { maxWorkers := 1, busyMessage := some [1, 2, 3] } (some [9]) live.terms live.message
        labels desk := by
  have isNew : LiveServer.new { maxWorkers := 1, busyMessage := some [1, 2, 3] } .echo (some [9]) = .ok _ := rfl
  have fresh : Run { options := { maxWorkers := 1, busyMessage := some [1, 2, 3] } } [1, 2, 3] [] {} := .new
  have run := fresh
    |>.step (.turn rfl (.of_step? (show Server.step? _ _ (.start true) = _ from rfl)))
    |>.step (.arrive (.of_step? (show Server.step? _ _ (.arrive ⟨.network, 7⟩) = _ from rfl)))
    |>.step (.decide (show (Desk.calls _)[0]? = some _ from rfl)
      (.of_step? (show Server.step? _ _ (.decide _ true) = _ from rfl)))
    |>.step (.arrive (.of_step? (show Server.step? _ _ (.arrive ⟨.network, 8⟩) = _ from rfl)))
    |>.step (.decide (show (Desk.calls _)[1]? = some _ from rfl)
      (.of_step? (show Server.step? _ _ (.decide _ true) = _ from rfl)))
    |>.step (.arrive (.of_step? (show Server.step? _ _ (.arrive ⟨.network, 9⟩) = _ from rfl)))
    |>.step (.decide (show (Desk.calls _)[2]? = some _ from rfl)
      (.of_step? (show Server.step? _ _ (.decide _ true) = _ from rfl)))
    |>.step (.arrive (.of_step? (show Server.step? _ _ (.arrive ⟨.network, 10⟩) = _ from rfl)))
    |>.step (.decide (show (Desk.calls _)[3]? = some _ from rfl)
      (.of_step? (show Server.step? _ _ (.decide _ true) = _ from rfl)))
    |>.step (.grant (show (Desk.calls _)[1]? = some _ from rfl))
    |>.step (.tell (show (Desk.calls _)[1]? = some _ from rfl)
      (.write [1, 2, 3] _ (.accepted 1) (by decide)))
    |>.step (.grant (show (Desk.calls _)[2]? = some _ from rfl))
    |>.step (.tell (show (Desk.calls _)[1]? = some _ from rfl)
      (.write [2, 3] _ (.failed .interrupted) (by decide)))
    |>.step (.tell (show (Desk.calls _)[1]? = some _ from rfl)
      (.write [2, 3] _ (.accepted 2) (by decide)))
    |>.step (.tell (show (Desk.calls _)[2]? = some _ from rfl)
      (.write [1, 2, 3] _ (.accepted 0) (by decide)))
    |>.step (.tell (show (Desk.calls _)[1]? = some _ from rfl) (.flush _ .done))
    |>.step (.deny (show (Desk.calls _)[3]? = some _ from rfl)
      (.of_step? (show Server.step? _ _ (.refuse _) = _ from rfl)))
    |>.step (.close (show (Desk.calls _)[2]? = some _ from rfl)
      (.of_step? (show Server.step? _ _ (.refuse _) = _ from rfl)))
    |>.step (.close (show (Desk.calls _)[1]? = some _ from rfl)
      (.of_step? (show Server.step? _ _ (.refuse _) = _ from rfl)))
  exact ⟨_, _, _, isNew, run, rfl, rfl, refusesProperly_of_run isNew run⟩

end Desk

end ConnectionPool
