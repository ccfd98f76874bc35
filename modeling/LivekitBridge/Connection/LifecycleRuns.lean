import LivekitBridge.Connection.Lifecycle

/-!
# What holds while the connection lives

The results about `Connection.Lifecycle`.  A room is activated only when none is attached, and with
a generation of its own, so what `Connection.MediaTracks` asks of the rooms holds
(`projects_media`).  `livekit::initialize` and `livekit::shutdown` take turns, and when `stop` has
returned no delegate is set.  The SDK serves the RPC methods that are saved, but for those whose
last call it refused (`Broken`).
-/

namespace LivekitBridge

open Lib

variable {H : Type} [RpcRegistry H]

/-! ### Delegates -/

omit [RpcRegistry H] in
theorem delegate_setRoom {c : RoomLife H} {number room : Nat} {sdk : SdkRoom H}
    (h : ((c.setRoom number sdk).rooms room).delegate = true) :
    room = number ∧ sdk.delegate = true ∨ room ≠ number ∧ (c.rooms room).delegate = true := by
  unfold RoomLife.setRoom at h
  dsimp only at h
  by_cases heq : room = number
  · subst heq
    rw [Function.update_self] at h
    exact .inl ⟨rfl, h⟩
  · rw [Function.update_of_ne heq] at h
    exact .inr ⟨heq, h⟩

omit [RpcRegistry H] in
theorem Ordered.room_eq_none {c : RoomLife H} (h : Ordered c)
    (htask : ∀ place, c.task = some place → place.mayAttach = false)
    (hstop : c.task = none → c.stopping ≠ some .detaching) : c.room = none := by
  rw [← Option.not_isSome_iff_eq_none]
  intro hroom
  rcases h.attached hroom with ⟨place, hplace, hmay⟩ | ⟨hnone, hdetaching⟩
  · rw [htask place hplace] at hmay
    cases hmay
  · exact hstop hnone hdetaching

omit [RpcRegistry H] in
theorem Delegated.same {c c' : RoomLife H} (h : Delegated c) (hcourse : SameCourse c c') :
    Delegated c' := by
  intro room hdelegate
  rw [(hcourse.rooms room).1] at hdelegate
  rw [hcourse.task, hcourse.stopping, hcourse.room]
  exact h room hdelegate

theorem Delegated.step {c c' : RoomLife H} {evs : List LifeEvent} (h : Delegated c)
    (hordered : Ordered c) (hs : LifeStep c evs c') : Delegated c' := by
  have hjoined := hordered.joined
  have hattached := hordered.attached
  cases hs with
  | start _ hstop =>
    unfold RoomLife.start
    split
    · exact h
    · rename_i hnone
      rw [Option.not_isSome_iff_eq_none] at hnone
      intro room hdelegate
      have hold := h room hdelegate
      grind
  | initializeSdk succeeds _ htask =>
    intro room hdelegate
    have hold := h room hdelegate
    grind [TaskPlace.ownRoom, TaskPlace.released]
  | runSection _ htask =>
    unfold RoomLife.runSection
    split
    · intro room hdelegate
      have hold := h room hdelegate
      grind [TaskPlace.ownRoom, TaskPlace.released]
    · intro room hdelegate
      rcases delegate_setRoom hdelegate with ⟨rfl, -⟩ | ⟨-, hdelegate⟩
      · exact .inr (.inl rfl)
      · have hold := h room hdelegate
        grind [RoomLife.setRoom, TaskPlace.ownRoom, TaskPlace.released]
  | connectRoom number connects _ htask =>
    unfold RoomLife.connectRoom
    split
    · intro room hdelegate
      rcases delegate_setRoom hdelegate with ⟨rfl, -⟩ | ⟨hne, hdelegate⟩
      · exact .inr (.inl rfl)
      · have hold := h room hdelegate
        grind [RoomLife.setRoom, TaskPlace.ownRoom, TaskPlace.released]
    · intro room hdelegate
      rcases delegate_setRoom hdelegate with ⟨-, hoff⟩ | ⟨hne, hdelegate⟩
      · cases hoff
      · have hold := h room hdelegate
        grind [RoomLife.setRoom, TaskPlace.ownRoom, TaskPlace.released]
  | checkStop number _ htask =>
    unfold RoomLife.checkStop
    split
    · intro room hdelegate
      rcases delegate_setRoom hdelegate with ⟨-, hoff⟩ | ⟨hne, hdelegate⟩
      · cases hoff
      · have hold := h room hdelegate
        grind [RoomLife.setRoom, TaskPlace.ownRoom, TaskPlace.released]
    · intro room hdelegate
      have hold := h room hdelegate
      grind [TaskPlace.ownRoom, TaskPlace.released]
  | activateRoom number answers _ htask =>
    have hcourse := sameCourse_registerAll answers c.rpcHandlers.keys
      { c with roomGeneration := c.roomGeneration + 1, room := some number }
    unfold RoomLife.activateRoom
    dsimp only
    generalize RoomLife.registerAll answers c.rpcHandlers.keys
      { c with roomGeneration := c.roomGeneration + 1, room := some number } = result at hcourse ⊢
    intro room hdelegate
    have hold := h room ((hcourse.rooms room).1.symm.trans hdelegate)
    have hroom : result.1.room = some number := hcourse.room
    have hstopping : result.1.stopping = c.stopping := hcourse.stopping
    have hnone : c.room = none := hordered.room_eq_none (by grind [TaskPlace.mayAttach]) (by grind)
    grind [TaskPlace.ownRoom, TaskPlace.released]
  | detachRoom _ htask =>
    intro room hdelegate
    have hold := h room hdelegate
    grind [RoomLife.detachRoom, TaskPlace.ownRoom, TaskPlace.released]
  | releaseRoom number _ htask =>
    intro room hdelegate
    cases number with
    | none =>
      have hold := h room hdelegate
      grind [RoomLife.releaseRoom, TaskPlace.ownRoom, TaskPlace.released]
    | some number =>
      rcases delegate_setRoom hdelegate with ⟨-, hoff⟩ | ⟨hne, hdelegate⟩
      · cases hoff
      · have hold := h room hdelegate
        grind [RoomLife.releaseRoom, RoomLife.setRoom, TaskPlace.ownRoom, TaskPlace.released]
  | transitionState _ htask =>
    intro room hdelegate
    have hold := h room hdelegate
    grind [TaskPlace.ownRoom, TaskPlace.released]
  | report _ htask =>
    intro room hdelegate
    have hold := h room hdelegate
    grind [TaskPlace.ownRoom, TaskPlace.released]
  | requestStop _ hstop htask =>
    intro room hdelegate
    have hold := h room hdelegate
    grind [StopPlace.released]
  | join _ hstop htask =>
    intro room hdelegate
    have hold := h room hdelegate
    grind [StopPlace.released, TaskPlace.ownRoom, TaskPlace.released]
  | stopDetach _ hstop =>
    intro room hdelegate
    have hold := h room hdelegate
    grind [RoomLife.detachRoom, StopPlace.released]
  | stopRelease number _ hstop =>
    intro room hdelegate
    cases number with
    | none =>
      have hold := h room hdelegate
      grind [RoomLife.releaseRoom, StopPlace.released]
    | some number =>
      rcases delegate_setRoom hdelegate with ⟨-, hoff⟩ | ⟨hne, hdelegate⟩
      · cases hoff
      · have hold := h room hdelegate
        grind [RoomLife.releaseRoom, RoomLife.setRoom, StopPlace.released]
  | clear _ hstop =>
    intro room hdelegate
    have hold := h room hdelegate
    grind [RoomLife.clear, StopPlace.released]
  | shutdown _ hstop =>
    intro room hdelegate
    have hold := h room hdelegate
    grind [StopPlace.released]
  | registerRpc method handler answers =>
    have hsaved : Delegated { c with rpcHandlers := c.rpcHandlers.insert method handler } := h
    exact hsaved.same (sameCourse_registerRpcLocked _ method answers)
  | unregisterRpc method accepts =>
    have herased : Delegated { c with rpcHandlers := c.rpcHandlers.erase method } := h
    exact herased.same (sameCourse_unregisterRpc c method accepts)
  | loseParticipant number =>
    intro room hdelegate
    refine h room ?_
    rcases delegate_setRoom hdelegate with ⟨rfl, hon⟩ | ⟨-, hdelegate⟩
    · exact hon
    · exact hdelegate
  | deliver thread room event _ hidle hdelegate => exact h
  | handle thread event _ hhandling =>
    obtain ⟨state, heq⟩ := handle_eq c event
    rw [heq]
    exact h
  | callBack thread event _ hcalling => exact h

/-! ### The methods that the SDK serves -/

def LifeEvent.refuses (method : Str) : LifeEvent → Option Unit
  | .answered other accepted => if other = method && !accepted then some () else none
  | _ => none

def LifeEvent.Settles (method : Str) (e : LifeEvent) : Prop :=
  e = .answered method true ∨ ∃ room roomGeneration, e = .activated room roomGeneration

/-- The SDK refused its last call about the method in this room. -/
def Broken (tr : List LifeEvent) (method : Str) : Prop :=
  Standing (LifeEvent.refuses method) (fun _ e => e.Settles method) tr ()

/-- For these methods, but the broken ones, the SDK has the handlers that are saved. -/
def ServedOn (tr : List LifeEvent) (c : RoomLife H) (methods : Str → Prop) : Prop :=
  ∀ room, c.participantRoom = some room → ∀ method, methods method → ¬ Broken tr method →
    ((c.rooms room).methods.lookup method : Option H) = c.rpcHandlers.lookup method

section Served

variable {tr : List LifeEvent} {c c' : RoomLife H} {methods : Str → Prop} {method other : Str}

theorem broken_answered (accepted : Bool) :
    Broken (tr ++ [.answered method accepted]) method ↔ accepted = false := by
  cases accepted with
  | true =>
    rw [Broken, standing_concat_of_not_set (by simp [LifeEvent.refuses])]
    simp [LifeEvent.Settles]
  | false =>
    have hrefuses : LifeEvent.refuses method (.answered method false) = some () := by
      simp [LifeEvent.refuses]
    rw [Broken, standing_concat_of_set hrefuses]
    exact ⟨fun _ => rfl, fun _ => rfl⟩

theorem broken_answered_other (accepted : Bool) (hne : other ≠ method) :
    Broken (tr ++ [.answered other accepted]) method ↔ Broken tr method := by
  rw [Broken, standing_concat_of_not_set (by simp [LifeEvent.refuses, hne])]
  simp [LifeEvent.Settles, hne, Broken]

omit [RpcRegistry H] in
theorem servedOn_of_none (h : c.participantRoom = none) : ServedOn tr c methods := by
  intro room hroom
  rw [h] at hroom
  cases hroom

omit [RpcRegistry H] in
/-- Events that say nothing about methods, and steps that leave them alone. -/
theorem ServedOn.quiet (h : ServedOn tr c methods) {evs : List LifeEvent}
    (hevs : ∀ e ∈ evs, ∀ method, e.refuses method = none ∧ ¬ e.Settles method)
    (hroom : c'.participantRoom = c.participantRoom) (hhandlers : c'.rpcHandlers = c.rpcHandlers)
    (hmethods : ∀ room, c'.participantRoom = some room →
      (c'.rooms room).methods = (c.rooms room).methods) :
    ServedOn (tr ++ evs) c' methods := by
  intro room hat method hm hnot
  rw [Broken, standing_append_of_quiet fun e he => hevs e he method] at hnot
  rw [hmethods room hat, hhandlers]
  exact h room (hroom ▸ hat) method hm hnot

omit [RpcRegistry H] in
theorem participantRoom_setRoom (number : Nat) {sdk : SdkRoom H}
    (h : sdk.participant = (c.rooms number).participant) :
    (c.setRoom number sdk).participantRoom = c.participantRoom := by
  have hsame : ∀ room, ((c.setRoom number sdk).rooms room).participant =
      (c.rooms room).participant := by
    intro room
    unfold RoomLife.setRoom
    dsimp only
    by_cases heq : room = number
    · rw [heq, Function.update_self]
      exact h
    · rw [Function.update_of_ne heq]
  unfold RoomLife.participantRoom
  exact congrArg (fun p => c.room.filter p) (funext hsame)

theorem methods_register (room : SdkRoom H) (handler : H) (answers : RpcAnswers) (other : Str) :
    ((room.register method handler answers).methods.lookup other : Option H) =
      if other = method then
        if answers.registers then some handler
        else if answers.unregisters then none else (room.methods.lookup method : Option H)
      else room.methods.lookup other := by
  unfold SdkRoom.register
  dsimp only
  split
  · split
    · rw [RpcRegistry.lookup_register, RpcRegistry.lookup_unregister]
      split <;> rfl
    · rw [RpcRegistry.lookup_register]
  · split
    · rw [RpcRegistry.lookup_unregister]
    · split
      · rename_i heq
        rw [heq]
      · rfl

/-- A saved method that is registered is served, unless it is refused. -/
theorem ServedOn.locked (h : ServedOn tr c methods) (method : Str) (answers : RpcAnswers) :
    ServedOn (tr ++ (c.registerRpcLocked method answers).2.1)
      (c.registerRpcLocked method answers).1
      fun other => methods other ∨ other = method ∧ method ∈ c.rpcHandlers := by
  unfold RoomLife.registerRpcLocked
  split
  · rename_i room handler hroom hhandler
    dsimp only
    have hsame : (c.setRoom room ((c.rooms room).register method handler answers)).participantRoom =
        c.participantRoom := participantRoom_setRoom room rfl
    intro attached hat other hother hnot
    rw [hsame, hroom] at hat
    obtain rfl := Option.some.inj hat
    have hupdated : ((c.setRoom room ((c.rooms room).register method handler answers)).rooms room) =
        (c.rooms room).register method handler answers := Function.update_self ..
    rw [hupdated, methods_register]
    by_cases heq : other = method
    · rw [if_pos heq]
      rw [heq, broken_answered, Bool.not_eq_false] at hnot
      rw [if_pos hnot, heq]
      exact hhandler.symm
    · rw [if_neg heq]
      rw [broken_answered_other _ (Ne.symm heq)] at hnot
      rcases hother with hold | ⟨hsame, -⟩
      · exact h room hroom other hold hnot
      · exact absurd hsame heq
  · rename_i hno
    rw [List.append_nil]
    intro room hroom other hother hnot
    rcases hother with hold | ⟨-, hsaved⟩
    · exact h room hroom other hold hnot
    · obtain ⟨handler, hhandler⟩ := Option.isSome_iff_exists.mp (AList.lookup_isSome.mpr hsaved)
      exact absurd hhandler (hno room handler hroom)

/-- The loop of `activateRoom`. -/
theorem ServedOn.all (h : ServedOn tr c methods) (answers : Str → RpcAnswers) (list : List Str)
    (hsaved : ∀ method ∈ list, method ∈ c.rpcHandlers) :
    ServedOn (tr ++ (RoomLife.registerAll answers list c).2.1)
      (RoomLife.registerAll answers list c).1
      fun method => methods method ∨ method ∈ list := by
  induction list generalizing tr c methods with
  | nil =>
    rw [show (RoomLife.registerAll answers [] c).2.1 = [] from rfl, List.append_nil]
    intro room hroom method hm
    exact h room hroom method (by simpa using hm)
  | cons method list ih =>
    have hcourse := sameCourse_registerRpcLocked c method (answers method)
    have hfirst := h.locked method (answers method)
    have hrest := ih hfirst (fun other hother => by
      rw [hcourse.rpcHandlers]
      exact hsaved other (List.mem_cons_of_mem _ hother))
    rw [List.append_assoc] at hrest
    intro room hroom other hother
    refine hrest room hroom other ?_
    rcases hother with hold | hmem
    · exact .inl (.inl hold)
    · rcases List.mem_cons.mp hmem with rfl | hmem
      · exact .inl (.inr ⟨rfl, hsaved _ List.mem_cons_self⟩)
      · exact .inr hmem

theorem answered_of_mem_locked {answers : RpcAnswers} {e : LifeEvent}
    (h : e ∈ (c.registerRpcLocked method answers).2.1) : ∃ other accepted, e = .answered other accepted := by
  unfold RoomLife.registerRpcLocked at h
  split at h
  · exact ⟨_, _, List.mem_singleton.mp h⟩
  · cases h

theorem answered_of_mem_all {answers : Str → RpcAnswers} {list : List Str} {e : LifeEvent}
    (h : e ∈ (RoomLife.registerAll answers list c).2.1) :
    ∃ method accepted, e = .answered method accepted := by
  induction list generalizing c with
  | nil => cases h
  | cons method list ih =>
    rcases List.mem_append.mp h with hfirst | hrest
    · exact answered_of_mem_locked hfirst
    · exact ih hrest

theorem ServedOn.registerRpc (h : ServedOn tr c fun _ => True) (method : Str) (handler : H)
    (answers : RpcAnswers) :
    ServedOn (tr ++ (c.registerRpc method handler answers).2.1)
      (c.registerRpc method handler answers).1 fun _ => True := by
  -- the other methods are served as before, and this one is registered now
  have hothers : ServedOn tr { c with rpcHandlers := c.rpcHandlers.insert method handler }
      (· ≠ method) := by
    intro room hroom other hne hnot
    rw [AList.lookup_insert_eq_if, if_neg hne]
    exact h room hroom other trivial hnot
  have hregistered := hothers.locked method answers
  intro room hroom other _
  refine hregistered room hroom other ?_
  by_cases heq : other = method
  · exact .inr ⟨heq, by simp⟩
  · exact .inl heq

theorem ServedOn.unregisterRpc (h : ServedOn tr c fun _ => True) (method : Str) (accepts : Bool) :
    ServedOn (tr ++ (c.unregisterRpc method accepts).2.1)
      (c.unregisterRpc method accepts).1 fun _ => True := by
  unfold RoomLife.unregisterRpc
  dsimp only
  split
  · rename_i hnone
    exact servedOn_of_none hnone
  · rename_i room hroom
    have hroom' : c.participantRoom = some room := hroom
    have hkeeps : ((c.rooms room).unregister method accepts).participant =
        (c.rooms room).participant := by
      unfold SdkRoom.unregister
      split <;> rfl
    have hsame : (RoomLife.setRoom { c with rpcHandlers := c.rpcHandlers.erase method } room
        ((c.rooms room).unregister method accepts)).participantRoom = some room :=
      (participantRoom_setRoom room hkeeps).trans hroom
    intro attached hat other _ hnot
    dsimp only at hat hnot ⊢
    rw [hsame] at hat
    obtain rfl := Option.some.inj hat
    have hupdated : ∀ sdk : SdkRoom H, (RoomLife.setRoom
        { c with rpcHandlers := c.rpcHandlers.erase method } room sdk).rooms room = sdk :=
      fun sdk => Function.update_self ..
    have hsaved : ∀ sdk : SdkRoom H, (RoomLife.setRoom
        { c with rpcHandlers := c.rpcHandlers.erase method } room sdk).rpcHandlers =
          c.rpcHandlers.erase method := fun sdk => rfl
    rw [hupdated, hsaved, AList.lookup_erase_eq_if, SdkRoom.unregister]
    by_cases heq : other = method
    · rw [heq, broken_answered, Bool.not_eq_false] at hnot
      rw [if_pos heq, if_pos hnot, RpcRegistry.lookup_unregister, if_pos heq]
    · rw [broken_answered_other _ (Ne.symm heq)] at hnot
      have hold := h room hroom' other trivial hnot
      rw [if_neg heq, ← hold]
      split
      · rw [RpcRegistry.lookup_unregister, if_neg heq]
      · rfl

end Served

theorem servedOn_activateRoom {tr : List LifeEvent} {c : RoomLife H} {room : Nat}
    (hunused : (c.rooms room).methods = ∅) (answers : Str → RpcAnswers) :
    ServedOn (tr ++ (c.activateRoom room answers).2) (c.activateRoom room answers).1
      fun _ => True := by
  -- nothing is served yet, and nothing is refused
  have hfresh : ServedOn (tr ++ [.activated room (c.roomGeneration + 1)])
      { c with roomGeneration := c.roomGeneration + 1, room := some room }
      fun method => method ∉ c.rpcHandlers := by
    intro attached hat method hnot _
    have hattached : room = attached :=
      Option.some.inj (Option.filter_eq_some_iff.mp hat).1
    rw [← hattached]
    have hnone : c.rpcHandlers.lookup method = none := AList.lookup_eq_none.mpr hnot
    rw [hnone]
    dsimp only
    rw [hunused]
    rfl
  have hall := hfresh.all answers c.rpcHandlers.keys fun method hmem => AList.mem_keys.mpr hmem
  rw [List.append_assoc] at hall
  intro attached hat method _ hnot
  exact hall attached hat method ((Classical.em _).symm.imp id fun h => AList.mem_keys.mp h) hnot

theorem ServedOn.step {tr evs : List LifeEvent} {c c' : RoomLife H}
    (h : ServedOn tr c fun _ => True) (hordered : Ordered c)
    (hunused : ∀ room, c.task.bind TaskPlace.ownRoom = some room → (c.rooms room).methods = ∅)
    (hs : LifeStep c evs c') : ServedOn (tr ++ evs) c' fun _ => True := by
  have hdetached : c'.room = none → ServedOn (tr ++ evs) c' fun _ => True := by
    intro hnone
    apply servedOn_of_none
    rw [RoomLife.participantRoom, hnone]
    rfl
  cases hs with
  | start _ hstop =>
    unfold RoomLife.start
    split
    · exact h.quiet (by simp) rfl rfl fun _ _ => rfl
    · exact h.quiet (by simp) rfl rfl fun _ _ => rfl
  | initializeSdk succeeds _ htask =>
    refine h.quiet ?_ rfl rfl fun _ _ => rfl
    cases succeeds <;> simp [LifeEvent.refuses, LifeEvent.Settles]
  | runSection _ htask =>
    apply hdetached
    have hnone := hordered.room_eq_none (by grind [TaskPlace.mayAttach]) (by grind)
    unfold RoomLife.runSection
    split
    · exact hnone
    · exact hnone
  | connectRoom room connects _ htask =>
    apply hdetached
    have hnone := hordered.room_eq_none (by grind [TaskPlace.mayAttach]) (by grind)
    unfold RoomLife.connectRoom
    split
    · exact hnone
    · exact hnone
  | checkStop room _ htask =>
    apply hdetached
    have hnone := hordered.room_eq_none (by grind [TaskPlace.mayAttach]) (by grind)
    unfold RoomLife.checkStop
    split
    · exact hnone
    · exact hnone
  | activateRoom room answers _ htask =>
    exact servedOn_activateRoom (hunused room (by rw [htask]; rfl)) answers
  | detachRoom _ htask => exact hdetached rfl
  | releaseRoom room _ htask =>
    apply hdetached
    have hnone := hordered.room_eq_none (by grind [TaskPlace.mayAttach]) (by grind)
    cases room with
    | none => exact hnone
    | some room => exact hnone
  | transitionState _ htask => exact h.quiet (by simp) rfl rfl fun _ _ => rfl
  | report _ htask =>
    exact h.quiet (by simp [LifeEvent.refuses, LifeEvent.Settles]) rfl rfl fun _ _ => rfl
  | requestStop _ hstop htask => exact h.quiet (by simp) rfl rfl fun _ _ => rfl
  | join _ hstop htask => exact h.quiet (by simp) rfl rfl fun _ _ => rfl
  | stopDetach _ hstop => exact hdetached rfl
  | stopRelease room _ hstop =>
    apply hdetached
    have hjoined := hordered.joined
    have hnone := hordered.room_eq_none (by grind) (by grind)
    cases room with
    | none => exact hnone
    | some room => exact hnone
  | clear _ hstop => exact h.quiet (by simp) rfl rfl fun _ _ => rfl
  | shutdown _ hstop =>
    exact h.quiet (by simp [LifeEvent.refuses, LifeEvent.Settles]) rfl rfl fun _ _ => rfl
  | registerRpc method handler answers => exact h.registerRpc method handler answers
  | unregisterRpc method accepts => exact h.unregisterRpc method accepts
  | loseParticipant number =>
    rw [List.append_nil]
    intro room hat method _ hnot
    obtain ⟨hroom, hparticipant⟩ := Option.filter_eq_some_iff.mp hat
    have hne : room ≠ number := by
      rintro rfl
      unfold RoomLife.setRoom at hparticipant
      simp at hparticipant
    have hsame : ∀ sdk, (c.setRoom number sdk).rooms room = c.rooms room :=
      fun sdk => Function.update_of_ne hne ..
    rw [hsame] at hparticipant ⊢
    exact h room (Option.filter_eq_some_iff.mpr ⟨hroom, hparticipant⟩) method trivial hnot
  | deliver thread room event _ hidle hdelegate => exact h.quiet (by simp) rfl rfl fun _ _ => rfl
  | handle thread event _ hhandling =>
    obtain ⟨state, heq⟩ := handle_eq c event
    rw [heq]
    exact h.quiet (by simp) rfl rfl fun _ _ => rfl
  | callBack thread event _ hcalling =>
    exact h.quiet (by simp [LifeEvent.refuses, LifeEvent.Settles]) rfl rfl fun _ _ => rfl

/-! ### Rooms, generations and the SDK -/

/-- The generations of the rooms that were activated. -/
def LifeEvent.generation : LifeEvent → Option Nat
  | .activated _ roomGeneration => some roomGeneration
  | _ => none

/-- What a run keeps. -/
structure LifeBooks (tr : List LifeEvent) (c : RoomLife H) : Prop where
  ordered : Ordered c
  delegated : Delegated c
  balance : tr.count .initialized = tr.count .shutdown + if c.sdkUp then 1 else 0
  increasing : (tr.filterMap LifeEvent.generation).Pairwise (· < ·)
  numbered : ∀ g ∈ tr.filterMap LifeEvent.generation, g ≤ c.roomGeneration
  current : ∀ room, c.room = some room → .activated room c.roomGeneration ∈ tr
  unused : ∀ room, c.task.bind TaskPlace.ownRoom = some room → (c.rooms room).methods = ∅
  served : ServedOn tr c fun _ => True

/-- The event does not concern the rooms and the SDK. -/
def LifeEvent.isAside : LifeEvent → Bool
  | .answered _ _ => true
  | .detached => true
  | .calledBack _ => true
  | _ => false

section Books

variable {tr evs : List LifeEvent} {c c' : RoomLife H}

theorem count_append_of_isAside (tr : List LifeEvent) (h : ∀ e ∈ evs, e.isAside = true) :
    (tr ++ evs).count .initialized = tr.count .initialized ∧
      (tr ++ evs).count .shutdown = tr.count .shutdown ∧
      (tr ++ evs).filterMap LifeEvent.generation = tr.filterMap LifeEvent.generation := by
  have hnot : ∀ e : LifeEvent, e.isAside = false → evs.count e = 0 := by
    intro e he
    rw [List.count_eq_zero]
    intro hmem
    rw [h e hmem] at he
    cases he
  refine ⟨?_, ?_, ?_⟩
  · rw [List.count_append, hnot _ rfl, Nat.add_zero]
  · rw [List.count_append, hnot _ rfl, Nat.add_zero]
  · have hnone : evs.filterMap LifeEvent.generation = [] := by
      rw [List.filterMap_eq_nil_iff]
      intro e he
      have haside := h e he
      cases e with
      | activated room g => cases haside
      | _ => rfl
    rw [List.filterMap_append, hnone, List.append_nil]

theorem LifeBooks.aside (h : LifeBooks tr c) (hs : LifeStep c evs c')
    (hevs : ∀ e ∈ evs, e.isAside = true) (hup : c'.sdkUp = c.sdkUp)
    (hgeneration : c.roomGeneration ≤ c'.roomGeneration)
    (hroom : ∀ room, c'.room = some room → c.room = some room ∧ c'.roomGeneration = c.roomGeneration)
    (hunused : ∀ room, c'.task.bind TaskPlace.ownRoom = some room → (c'.rooms room).methods = ∅) :
    LifeBooks (tr ++ evs) c' := by
  obtain ⟨hinit, hshut, hgenerations⟩ := count_append_of_isAside tr hevs
  refine ⟨h.ordered.step hs, h.delegated.step h.ordered hs, ?_, ?_, ?_, ?_, hunused,
    h.served.step h.ordered h.unused hs⟩
  · rw [hinit, hshut, hup]
    exact h.balance
  · rw [hgenerations]
    exact h.increasing
  · rw [hgenerations]
    exact fun g hg => Nat.le_trans (h.numbered g hg) hgeneration
  · intro room hat
    obtain ⟨hbefore, hsame⟩ := hroom room hat
    rw [hsame]
    exact List.mem_append_left _ (h.current room hbefore)

theorem LifeBooks.sdk (h : LifeBooks tr c) {e : LifeEvent} (hs : LifeStep c [e] c')
    (he : e.generation = none)
    (hbalance : (tr ++ [e]).count .initialized = (tr ++ [e]).count .shutdown + if c'.sdkUp then 1 else 0)
    (hroom : c'.room = c.room ∧ c'.roomGeneration = c.roomGeneration)
    (hunused : ∀ room, c'.task.bind TaskPlace.ownRoom = some room → (c'.rooms room).methods = ∅) :
    LifeBooks (tr ++ [e]) c' := by
  have hsame : (tr ++ [e]).filterMap LifeEvent.generation = tr.filterMap LifeEvent.generation := by
    simp [List.filterMap_append, he]
  refine ⟨h.ordered.step hs, h.delegated.step h.ordered hs, hbalance, ?_, ?_, ?_, hunused,
    h.served.step h.ordered h.unused hs⟩
  · rw [hsame]
    exact h.increasing
  · rw [hsame, hroom.2]
    exact h.numbered
  · rw [hroom.1, hroom.2]
    exact fun room hat => List.mem_append_left _ (h.current room hat)

theorem isAside_of_mem_locked {method : Str} {answers : RpcAnswers} {e : LifeEvent}
    (h : e ∈ (c.registerRpcLocked method answers).2.1) : e.isAside = true := by
  obtain ⟨_, _, rfl⟩ := answered_of_mem_locked h
  rfl

theorem answered_of_mem_unregisterRpc {method : Str} {accepts : Bool} {e : LifeEvent}
    (h : e ∈ (c.unregisterRpc method accepts).2.1) :
    ∃ other accepted, e = .answered other accepted := by
  unfold RoomLife.unregisterRpc at h
  dsimp only at h
  split at h
  · cases h
  · exact ⟨_, _, List.mem_singleton.mp h⟩

theorem isAside_of_mem_unregisterRpc {method : Str} {accepts : Bool} {e : LifeEvent}
    (h : e ∈ (c.unregisterRpc method accepts).2.1) : e.isAside = true := by
  obtain ⟨_, _, rfl⟩ := answered_of_mem_unregisterRpc h
  rfl

omit [RpcRegistry H] in
theorem Ordered.participantRoom_eq_none_of_ownRoom (h : Ordered c) {room : Nat}
    (hown : c.task.bind TaskPlace.ownRoom = some room) : c.participantRoom = none := by
  obtain ⟨place, htask, hplace⟩ := Option.bind_eq_some_iff.mp hown
  have hmay : place.mayAttach = false := by
    cases place <;> first | rfl | cases hplace
  have hnone : c.room = none := h.room_eq_none (by grind) (by grind)
  rw [RoomLife.participantRoom, hnone]
  rfl

theorem registerRpc_of_participantRoom {method : Str} {handler : H} {answers : RpcAnswers}
    (h : c.participantRoom = none) :
    c.registerRpc method handler answers =
      ({ c with rpcHandlers := c.rpcHandlers.insert method handler }, [], true) := by
  have hsaved : RoomLife.participantRoom
      { c with rpcHandlers := c.rpcHandlers.insert method handler } = none := h
  unfold RoomLife.registerRpc RoomLife.registerRpcLocked
  rw [hsaved]

theorem unregisterRpc_of_participantRoom {method : Str} {accepts : Bool}
    (h : c.participantRoom = none) :
    c.unregisterRpc method accepts =
      ({ c with rpcHandlers := c.rpcHandlers.erase method }, [], true) := by
  have hsaved : RoomLife.participantRoom
      { c with rpcHandlers := c.rpcHandlers.erase method } = none := h
  unfold RoomLife.unregisterRpc
  dsimp only
  rw [hsaved]

theorem LifeBooks.activate (h : LifeBooks tr c) {room : Nat} (htask : c.task = some (.activating room))
    (answers : Str → RpcAnswers) :
    LifeBooks (tr ++ (c.activateRoom room answers).2) (c.activateRoom room answers).1 := by
  have hs : LifeStep c (c.activateRoom room answers).2 (c.activateRoom room answers).1 :=
    .activateRoom room answers c htask
  have hcourse := sameCourse_registerAll answers c.rpcHandlers.keys
    { c with roomGeneration := c.roomGeneration + 1, room := some room }
  have hgeneration : (c.activateRoom room answers).1.roomGeneration = c.roomGeneration + 1 :=
    hcourse.roomGeneration
  have hattached : (c.activateRoom room answers).1.room = some room := hcourse.room
  have hup : (c.activateRoom room answers).1.sdkUp = c.sdkUp := hcourse.sdk.1
  -- the new generation, and what the loop says of the methods
  have hevents : ∃ rest : List LifeEvent, (∀ e ∈ rest, e.isAside = true) ∧
      (c.activateRoom room answers).2 = .activated room (c.roomGeneration + 1) :: rest := by
    refine ⟨_, ?_, rfl⟩
    intro e he
    obtain ⟨_, _, rfl⟩ := answered_of_mem_all he
    rfl
  obtain ⟨rest, hrest, hevents⟩ := hevents
  obtain ⟨hinit, hshut, hgenerations⟩ :=
    count_append_of_isAside (tr ++ [.activated room (c.roomGeneration + 1)]) hrest
  have hsplit : tr ++ (c.activateRoom room answers).2 =
      tr ++ [.activated room (c.roomGeneration + 1)] ++ rest := by
    rw [hevents, List.append_assoc]
    rfl
  have hnew : (tr ++ (c.activateRoom room answers).2).filterMap LifeEvent.generation =
      tr.filterMap LifeEvent.generation ++ [c.roomGeneration + 1] := by
    rw [hsplit, hgenerations, List.filterMap_append]
    rfl
  refine ⟨h.ordered.step hs, h.delegated.step h.ordered hs, ?_, ?_, ?_, ?_, ?_,
    h.served.step h.ordered h.unused hs⟩
  · rw [hsplit, hinit, hshut, hup, List.count_append, List.count_append]
    exact h.balance
  · rw [hnew, List.pairwise_append]
    refine ⟨h.increasing, List.pairwise_singleton .., ?_⟩
    intro g hg g' hg'
    rw [List.mem_singleton.mp hg']
    exact Nat.lt_succ_of_le (h.numbered g hg)
  · rw [hnew, hgeneration]
    intro g hg
    rcases List.mem_append.mp hg with hold | hlast
    · exact Nat.le_succ_of_le (h.numbered g hold)
    · exact Nat.le_of_eq (List.mem_singleton.mp hlast)
  · intro attached hat
    rw [hattached] at hat
    rw [hgeneration, ← Option.some.inj hat, hevents]
    simp
  · intro own hown
    unfold RoomLife.activateRoom at hown
    dsimp only at hown
    split at hown
    · cases hown
    · cases hown

theorem LifeBooks.step (h : LifeBooks tr c) (hs : LifeStep c evs c') : LifeBooks (tr ++ evs) c' := by
  have hs' := hs
  have hordered := h.ordered
  have hup := hordered.up
  have hjoined := hordered.joined
  have hinitialized := hordered.initialized
  cases hs with
  | start _ hstop =>
    have hstart : c.start.sdkUp = c.sdkUp ∧ c.start.roomGeneration = c.roomGeneration ∧
        c.start.room = c.room ∧ c.start.rooms = c.rooms := by
      unfold RoomLife.start
      split
      · exact ⟨rfl, rfl, rfl, rfl⟩
      · exact ⟨rfl, rfl, rfl, rfl⟩
    obtain ⟨hsdk, hgeneration, hroom, hrooms⟩ := hstart
    refine h.aside hs' (by simp) hsdk (Nat.le_of_eq hgeneration.symm)
      (fun room hat => ⟨hroom ▸ hat, hgeneration⟩) ?_
    rw [hrooms]
    unfold RoomLife.start
    split
    · exact h.unused
    · simp [TaskPlace.ownRoom]
  | initializeSdk succeeds _ htask =>
    have hdown : c.sdkUp = false := by
      rw [Bool.eq_false_iff]
      intro hon
      grind [TaskPlace.isPastRun]
    cases succeeds with
    | false =>
      exact h.aside hs' (by simp) (by simp) (Nat.le_refl _) (fun room hat => ⟨hat, rfl⟩)
        (by simp [TaskPlace.ownRoom])
    | true =>
      refine h.sdk hs' rfl ?_ ⟨rfl, rfl⟩ (by simp [TaskPlace.ownRoom])
      have hbalance := h.balance
      rw [hdown] at hbalance
      simp [List.count_append] at hbalance ⊢
      omega
  | runSection _ htask =>
    have hnone := hordered.room_eq_none (by grind [TaskPlace.mayAttach]) (by grind)
    unfold RoomLife.runSection at hs' ⊢
    split at hs' <;> rename_i hstop
    · rw [if_pos hstop]
      exact h.aside hs' (by simp) rfl (Nat.le_refl _) (fun room hat => ⟨hat, rfl⟩)
        (by simp [TaskPlace.ownRoom])
    · rw [if_neg hstop]
      refine h.aside hs' (by simp) rfl (Nat.le_refl _) (fun room hat => ⟨hat, rfl⟩) ?_
      intro room hown
      obtain rfl : c.created = room := Option.some.inj hown
      unfold RoomLife.setRoom
      simp
  | connectRoom room connects _ htask =>
    have hempty := h.unused room (by rw [htask]; rfl)
    cases connects with
    | true =>
      refine h.aside hs' (by simp) rfl (Nat.le_refl _) (fun room hat => ⟨hat, rfl⟩) ?_
      intro own hown
      obtain rfl : room = own := Option.some.inj hown
      simpa [RoomLife.connectRoom, RoomLife.setRoom] using hempty
    | false =>
      exact h.aside hs' (by simp) rfl (Nat.le_refl _) (fun room hat => ⟨hat, rfl⟩)
        (by simp [RoomLife.connectRoom, TaskPlace.ownRoom])
  | checkStop room _ htask =>
    have hempty := h.unused room (by rw [htask]; rfl)
    unfold RoomLife.checkStop at hs' ⊢
    split at hs' <;> rename_i hstop
    · rw [if_pos hstop]
      exact h.aside hs' (by simp) rfl (Nat.le_refl _) (fun room hat => ⟨hat, rfl⟩)
        (by simp [TaskPlace.ownRoom])
    · rw [if_neg hstop]
      refine h.aside hs' (by simp) rfl (Nat.le_refl _) (fun room hat => ⟨hat, rfl⟩) ?_
      intro own hown
      obtain rfl : room = own := Option.some.inj hown
      exact hempty
  | activateRoom room answers _ htask => exact h.activate htask answers
  | detachRoom _ htask =>
    refine h.aside hs' (by simp [LifeEvent.isAside]) rfl ?_ (by simp [RoomLife.detachRoom])
      (by simp [TaskPlace.ownRoom])
    unfold RoomLife.detachRoom
    dsimp only
    split <;> omega
  | releaseRoom room _ htask =>
    cases room with
    | none =>
      exact h.aside hs' (by simp) rfl (Nat.le_refl _) (fun room hat => ⟨hat, rfl⟩)
        (by simp [TaskPlace.ownRoom])
    | some room =>
      exact h.aside hs' (by simp) rfl (Nat.le_refl _) (fun room hat => ⟨hat, rfl⟩)
        (by simp [TaskPlace.ownRoom])
  | transitionState _ htask =>
    refine h.aside hs' (by simp) rfl (Nat.le_refl _) (fun room hat => ⟨hat, rfl⟩) ?_
    intro own hown
    dsimp only at hown
    split at hown
    · cases hown
    · cases hown
  | report _ htask =>
    exact h.aside hs' (by simp [LifeEvent.isAside]) rfl (Nat.le_refl _) (fun room hat => ⟨hat, rfl⟩)
      (by simp [TaskPlace.ownRoom])
  | requestStop _ hstop htask =>
    exact h.aside hs' (by simp) rfl (Nat.le_refl _) (fun room hat => ⟨hat, rfl⟩) h.unused
  | join _ hstop htask =>
    exact h.aside hs' (by simp) rfl (Nat.le_refl _) (fun room hat => ⟨hat, rfl⟩) (by simp)
  | stopDetach _ hstop =>
    refine h.aside hs' (by simp [LifeEvent.isAside]) rfl ?_ (by simp [RoomLife.detachRoom]) h.unused
    unfold RoomLife.detachRoom
    dsimp only
    split <;> omega
  | stopRelease room _ hstop =>
    have hnone : c.task = none := by grind
    cases room with
    | none =>
      exact h.aside hs' (by simp) rfl (Nat.le_refl _) (fun room hat => ⟨hat, rfl⟩) h.unused
    | some room =>
      refine h.aside hs' (by simp) rfl (Nat.le_refl _) (fun room hat => ⟨hat, rfl⟩) ?_
      intro own hown
      have hown' : c.task.bind TaskPlace.ownRoom = some own := hown
      rw [hnone] at hown'
      cases hown'
  | clear _ hstop =>
    exact h.aside hs' (by simp) rfl (Nat.le_refl _) (fun room hat => ⟨hat, rfl⟩) h.unused
  | shutdown _ hstop =>
    have hon : c.sdkUp = true := hup.mpr (.inr (.inr hstop))
    refine h.sdk hs' rfl ?_ ⟨rfl, rfl⟩ h.unused
    have hbalance := h.balance
    rw [hon] at hbalance
    simp [List.count_append] at hbalance ⊢
    omega
  | registerRpc method handler answers =>
    have hcourse := sameCourse_registerRpcLocked
      { c with rpcHandlers := c.rpcHandlers.insert method handler } method answers
    refine h.aside hs' (fun e he => isAside_of_mem_locked he) hcourse.sdk.1
      (Nat.le_of_eq hcourse.roomGeneration.symm)
      (fun room hat => ⟨hcourse.room ▸ hat, hcourse.roomGeneration⟩) ?_
    intro own hown
    have htask : (c.registerRpc method handler answers).1.task = c.task := hcourse.task
    rw [htask] at hown
    have hnone : c.participantRoom = none := hordered.participantRoom_eq_none_of_ownRoom hown
    rw [registerRpc_of_participantRoom hnone]
    exact h.unused own hown
  | unregisterRpc method accepts =>
    have hcourse := sameCourse_unregisterRpc c method accepts
    refine h.aside hs' (fun e he => isAside_of_mem_unregisterRpc he) hcourse.sdk.1
      (Nat.le_of_eq hcourse.roomGeneration.symm)
      (fun room hat => ⟨hcourse.room ▸ hat, hcourse.roomGeneration⟩) ?_
    intro own hown
    rw [hcourse.task] at hown
    have hnone : c.participantRoom = none := hordered.participantRoom_eq_none_of_ownRoom hown
    rw [unregisterRpc_of_participantRoom hnone]
    exact h.unused own hown
  | loseParticipant number =>
    refine h.aside hs' (by simp) rfl (Nat.le_refl _) (fun room hat => ⟨hat, rfl⟩) ?_
    intro own hown
    have hempty := h.unused own hown
    unfold RoomLife.setRoom
    dsimp only
    by_cases heq : own = number
    · subst heq
      rw [Function.update_self]
      exact hempty
    · rw [Function.update_of_ne heq]
      exact hempty
  | deliver thread room event _ hidle hdelegate =>
    exact h.aside hs' (by simp) rfl (Nat.le_refl _) (fun room hat => ⟨hat, rfl⟩) h.unused
  | handle thread event _ hhandling =>
    obtain ⟨state, heq⟩ := handle_eq c event
    rw [heq] at hs' ⊢
    exact h.aside hs' (by simp) rfl (Nat.le_refl _) (fun room hat => ⟨hat, rfl⟩) h.unused
  | callBack thread event _ hcalling =>
    exact h.aside hs' (by simp [LifeEvent.isAside]) rfl (Nat.le_refl _)
      (fun room hat => ⟨hat, rfl⟩) h.unused

end Books

/-! ### Runs -/

/-- What `Connection.MediaTracks` has of the connection. -/
def RoomLife.mediaSystem (c : RoomLife H) : MediaSystem :=
  { MediaSystem.initial with
    room := ⟨c.room.map fun _ => c.roomGeneration, c.roomGeneration, ∅, ∅⟩ }

/-- What is seen there. -/
def LifeEvent.media : LifeEvent → Option MediaEvent
  | .detached => some .detached
  | _ => none

section Runs

variable {tr evs : List LifeEvent} {c c' : RoomLife H}

theorem LifeStep.room_cases (h : LifeStep c evs c') :
    (c'.room = c.room ∧ c'.roomGeneration = c.roomGeneration ∧ evs.filterMap LifeEvent.media = []) ∨
    (∃ room, c.task = some (.activating room) ∧ c'.room = some room ∧
      c'.roomGeneration = c.roomGeneration + 1 ∧ evs.filterMap LifeEvent.media = []) ∨
    (evs = [.detached] ∧ c'.room = none ∧
      c'.roomGeneration = if c.room.isSome then c.roomGeneration + 1 else c.roomGeneration) := by
  cases h with
  | start _ hstop =>
    left
    unfold RoomLife.start
    split
    · exact ⟨rfl, rfl, rfl⟩
    · exact ⟨rfl, rfl, rfl⟩
  | initializeSdk succeeds _ htask =>
    left
    cases succeeds with
    | false => exact ⟨rfl, rfl, rfl⟩
    | true => exact ⟨rfl, rfl, rfl⟩
  | runSection _ htask =>
    left
    unfold RoomLife.runSection
    split
    · exact ⟨rfl, rfl, rfl⟩
    · exact ⟨rfl, rfl, rfl⟩
  | connectRoom room connects _ htask =>
    left
    unfold RoomLife.connectRoom
    split
    · exact ⟨rfl, rfl, rfl⟩
    · exact ⟨rfl, rfl, rfl⟩
  | checkStop room _ htask =>
    left
    unfold RoomLife.checkStop
    split
    · exact ⟨rfl, rfl, rfl⟩
    · exact ⟨rfl, rfl, rfl⟩
  | activateRoom room answers _ htask =>
    have hcourse := sameCourse_registerAll answers c.rpcHandlers.keys
      { c with roomGeneration := c.roomGeneration + 1, room := some room }
    refine .inr (.inl ⟨room, htask, hcourse.room, hcourse.roomGeneration, ?_⟩)
    rw [List.filterMap_eq_nil_iff]
    intro e he
    rcases List.mem_cons.mp he with rfl | hrest
    · rfl
    · obtain ⟨_, _, rfl⟩ := answered_of_mem_all hrest
      rfl
  | detachRoom _ htask => exact .inr (.inr ⟨rfl, rfl, rfl⟩)
  | releaseRoom room _ htask =>
    left
    cases room with
    | none => exact ⟨rfl, rfl, rfl⟩
    | some room => exact ⟨rfl, rfl, rfl⟩
  | transitionState _ htask => exact .inl ⟨rfl, rfl, rfl⟩
  | report _ htask => exact .inl ⟨rfl, rfl, rfl⟩
  | requestStop _ hstop htask => exact .inl ⟨rfl, rfl, rfl⟩
  | join _ hstop htask => exact .inl ⟨rfl, rfl, rfl⟩
  | stopDetach _ hstop => exact .inr (.inr ⟨rfl, rfl, rfl⟩)
  | stopRelease room _ hstop =>
    left
    cases room with
    | none => exact ⟨rfl, rfl, rfl⟩
    | some room => exact ⟨rfl, rfl, rfl⟩
  | clear _ hstop => exact .inl ⟨rfl, rfl, rfl⟩
  | shutdown _ hstop => exact .inl ⟨rfl, rfl, rfl⟩
  | registerRpc method handler answers =>
    left
    have hcourse := sameCourse_registerRpcLocked
      { c with rpcHandlers := c.rpcHandlers.insert method handler } method answers
    have hanswered : ∀ e ∈ (c.registerRpc method handler answers).2.1,
        e.media = none := by
      intro e he
      obtain ⟨_, _, rfl⟩ := answered_of_mem_locked he
      rfl
    exact ⟨hcourse.room, hcourse.roomGeneration, List.filterMap_eq_nil_iff.mpr hanswered⟩
  | unregisterRpc method accepts =>
    left
    have hcourse := sameCourse_unregisterRpc c method accepts
    have hanswered : ∀ e ∈ (c.unregisterRpc method accepts).2.1,
        e.media = none := by
      intro e he
      obtain ⟨_, _, rfl⟩ := answered_of_mem_unregisterRpc he
      rfl
    exact ⟨hcourse.room, hcourse.roomGeneration, List.filterMap_eq_nil_iff.mpr hanswered⟩
  | loseParticipant room => exact .inl ⟨rfl, rfl, rfl⟩
  | deliver thread room event _ hidle hdelegate => exact .inl ⟨rfl, rfl, rfl⟩
  | handle thread event _ hhandling =>
    obtain ⟨state, heq⟩ := handle_eq c event
    rw [heq]
    exact .inl ⟨rfl, rfl, rfl⟩
  | callBack thread event _ hcalling => exact .inl ⟨rfl, rfl, rfl⟩

/-- Where the task and `stop` are at the events that matter here. -/
theorem LifeStep.of_event (h : LifeStep c evs c') :
    (∀ room g, .activated room g ∈ evs → c.task = some (.activating room)) ∧
      (.shutdown ∈ evs → c.stopping = some .shuttingDown) := by
  cases h with
  | start _ hstop => simp
  | initializeSdk succeeds _ htask => cases succeeds <;> simp
  | runSection _ htask => simp
  | connectRoom room connects _ htask => simp
  | checkStop room _ htask => simp
  | activateRoom room answers _ htask =>
    refine ⟨?_, ?_⟩
    · intro room' g hmem
      rcases List.mem_cons.mp hmem with hhead | hrest
      · obtain ⟨rfl, -⟩ := LifeEvent.activated.inj hhead
        exact htask
      · obtain ⟨_, _, heq⟩ := answered_of_mem_all hrest
        cases heq
    · intro hmem
      rcases List.mem_cons.mp hmem with hhead | hrest
      · cases hhead
      · obtain ⟨_, _, heq⟩ := answered_of_mem_all hrest
        cases heq
  | detachRoom _ htask => simp
  | releaseRoom room _ htask => simp
  | transitionState _ htask => simp
  | report _ htask => simp
  | requestStop _ hstop htask => simp
  | join _ hstop htask => simp
  | stopDetach _ hstop => simp
  | stopRelease room _ hstop => simp
  | clear _ hstop => simp
  | shutdown _ hstop => simpa using hstop
  | registerRpc method handler answers =>
    refine ⟨fun room g hmem => ?_, fun hmem => ?_⟩
    · obtain ⟨_, _, heq⟩ := answered_of_mem_locked hmem
      cases heq
    · obtain ⟨_, _, heq⟩ := answered_of_mem_locked hmem
      cases heq
  | unregisterRpc method accepts =>
    refine ⟨fun room g hmem => ?_, fun hmem => ?_⟩
    · obtain ⟨_, _, heq⟩ := answered_of_mem_unregisterRpc hmem
      cases heq
    · obtain ⟨_, _, heq⟩ := answered_of_mem_unregisterRpc hmem
      cases heq
  | loseParticipant room => simp
  | deliver thread room event _ hidle hdelegate => simp
  | handle thread event _ hhandling => simp
  | callBack thread event _ hcalling => simp

theorem lifeBooks_of_trace (h : (lifeMachine H).Trace tr c) : LifeBooks tr c := by
  induction h with
  | start hs =>
    rw [hs]
    refine ⟨.initial, ?_, rfl, .nil, ?_, ?_, ?_, servedOn_of_none rfl⟩
    · intro room hdelegate
      cases hdelegate
    · intro g hg
      cases hg
    · intro room hroom
      cases hroom
    · intro room hown
      cases hown
  | step _ hs ih => exact ih.step hs

omit [RpcRegistry H] in
theorem Ordered.room_of_activating (h : Ordered c) {room : Nat}
    (htask : c.task = some (.activating room)) : c.room = none :=
  h.room_eq_none (by grind [TaskPlace.mayAttach]) (by grind)

/-- To the methods that publish tracks the connection is as `Connection.MediaTracks` has it. -/
theorem projects_media :
    (lifeMachine H).Projects media RoomLife.mediaSystem LifeEvent.media := by
  refine ⟨?_, ?_⟩
  · rintro c rfl
    rfl
  · intro tr evs c c' prior hs
    rcases hs.room_cases with ⟨hroom, hgeneration, hevs⟩ | ⟨room, htask, hroom, hgeneration, hevs⟩ |
      ⟨rfl, hroom, hgeneration⟩
    · refine .stutter hevs ?_
      rw [RoomLife.mediaSystem, hroom, hgeneration]
      rfl
    · have hnone : c.room = none := (lifeBooks_of_trace prior).ordered.room_of_activating htask
      have hactive : c'.mediaSystem =
          { c.mediaSystem with room := c.mediaSystem.room.activateRoom } := by
        rw [RoomLife.mediaSystem, hroom, hgeneration]
        rfl
      rw [hevs, hactive]
      refine .single (.activateRoom ?_)
      rw [RoomLife.mediaSystem, hnone]
      rfl
    · have hdetached : c'.mediaSystem =
          { c.mediaSystem with room := c.mediaSystem.room.detachRoom } := by
        rw [RoomLife.mediaSystem, hroom, hgeneration]
        unfold RoomLife.mediaSystem MediaRoom.detachRoom
        simp
      rw [hdetached]
      exact .single .detachRoom

/-- **The order of rooms and of the SDK.**  However calls of `start`, `stop` and the RPC methods,
sections of the connection task and handlers of the SDK follow each other: the SDK has been
initialized as often as it was shut down, and once more while it is up; each room that is activated
gets a generation higher than all before, and the room that is attached has the present one; a room
is activated only when none is attached; the SDK is shut down only after the connection task has
ended, with no room attached and no delegate set; and once `stop` has returned it is down, with no
room attached, no callback and no delegate set.  The rooms are those of a run of
`Connection.MediaTracks`. -/
theorem roomLife_in_order (h : (lifeMachine H).Trace tr c) :
    tr.count .initialized = tr.count .shutdown + (if c.sdkUp then 1 else 0) ∧
    ((tr.filterMap LifeEvent.generation).Pairwise (· < ·) ∧
      ∀ room, c.room = some room → .activated room c.roomGeneration ∈ tr) ∧
    (∀ evs c', LifeStep c evs c' →
      (∀ room g, .activated room g ∈ evs → c.room = none) ∧
      (.shutdown ∈ evs → c.task = none ∧ c.room = none ∧ ∀ room, (c.rooms room).delegate = false)) ∧
    (c.stopping = none → c.task = none →
      c.sdkUp = false ∧ c.room = none ∧ c.callbacks = false ∧
        ∀ room, (c.rooms room).delegate = false) ∧
    media.Trace (tr.filterMap LifeEvent.media) c.mediaSystem := by
  have hbooks := lifeBooks_of_trace h
  have hordered := hbooks.ordered
  -- nothing is attached, released or its own, and so no delegate is set
  have hquiet : c.task = none → c.stopping ≠ some .detaching →
      c.stopping.bind StopPlace.released = none →
        c.room = none ∧ ∀ room, (c.rooms room).delegate = false := by
    intro htask hdetaching hreleased
    have hnone : c.room = none := hordered.room_eq_none (by simp [htask]) fun _ => hdetaching
    refine ⟨hnone, fun room => ?_⟩
    rw [Bool.eq_false_iff]
    intro hdelegate
    rcases hbooks.delegated room hdelegate with hroom | hown | hlet | hlet
    · rw [hnone] at hroom
      cases hroom
    · rw [htask] at hown
      cases hown
    · rw [htask] at hlet
      cases hlet
    · rw [hreleased] at hlet
      cases hlet
  refine ⟨hbooks.balance, ⟨hbooks.increasing, hbooks.current⟩, ?_, ?_, projects_media.trace h⟩
  · intro evs c' hs
    refine ⟨?_, ?_⟩
    · intro room g hmem
      exact hordered.room_of_activating (hs.of_event.1 room g hmem)
    · intro hmem
      have hstop := hs.of_event.2 hmem
      have htask := hordered.joined (by simp [hstop]) (by simp [hstop])
      exact ⟨htask, hquiet htask (by simp [hstop]) (by rw [hstop]; rfl)⟩
  · intro hstop htask
    obtain ⟨hroom, hdelegates⟩ := hquiet htask (by simp [hstop]) (by rw [hstop]; rfl)
    refine ⟨?_, hroom, ?_, hdelegates⟩
    · have hup := hordered.up
      have hinitialized := hordered.initialized
      grind
    · have hcallbacks := hordered.callbacks
      grind

/-- Handlers that are numbers, kept in a list. -/
instance : RpcRegistry Nat where
  registerRpcMethod methods method handler := methods.insert method handler
  unregisterRpcMethod methods method := methods.erase method
  lookup_register _ _ _ _ := AList.lookup_insert_eq_if ..
  lookup_unregister _ _ _ := AList.lookup_erase_eq_if ..

/-- A method is registered before the first start, the room is activated and let go, and the SDK is
shut down. -/
theorem roomLife_in_order_stopped :
    ∃ c : RoomLife Nat, (lifeMachine Nat).Trace
        [.initialized, .activated 0 1, .answered (lit "m") true, .calledBack (.state .reconnected),
          .detached, .shutdown] c ∧
      c.sdkUp = false ∧ c.room = none ∧ (c.rooms 0).delegate = false := by
  have h0 : (lifeMachine Nat).Trace [] RoomLife.initial := .start rfl
  have h1 := h0.step (LifeStep.registerRpc (lit "m") 7 ⟨true, true⟩ _)
  have h2 := h1.step (LifeStep.start _ rfl)
  have h3 := h2.step (LifeStep.initializeSdk true _ rfl)
  have h4 := h3.step (LifeStep.runSection _ rfl)
  have h5 := h4.step (LifeStep.connectRoom 0 true _ rfl)
  have h6 := h5.step (LifeStep.checkStop 0 _ rfl)
  have h7 := h6.step (LifeStep.activateRoom 0 (fun _ => ⟨true, true⟩) _ rfl)
  have h8 := h7.step (LifeStep.transitionState _ rfl)
  have h9 := h8.step (LifeStep.requestStop _ rfl rfl)
  have h10 := h9.step (LifeStep.report _ rfl)
  have h11 := h10.step (LifeStep.join _ rfl rfl)
  have h12 := h11.step (LifeStep.stopDetach _ rfl)
  have h13 := h12.step (LifeStep.stopRelease (some 0) _ rfl)
  have h14 := h13.step (LifeStep.clear _ rfl)
  have h15 := h14.step (LifeStep.shutdown _ rfl)
  obtain ⟨hdown, hroom, -, hdelegates⟩ := (roomLife_in_order h15).2.2.2.1 rfl rfl
  exact ⟨_, h15, hdown, hroom, hdelegates 0⟩

/-- **The methods that are served.**  Whenever a room with a participant is attached, the SDK has
for each method the handler that was saved last, and none if the method was unregistered; but for
a method whose last call in this room the SDK refused. -/
theorem rpc_handlers_served (h : (lifeMachine H).Trace tr c) {room : Nat}
    (hroom : c.room = some room) (hparticipant : (c.rooms room).participant = true) {method : Str}
    (hbroken : ¬ Broken tr method) :
    ((c.rooms room).methods.lookup method : Option H) = c.rpcHandlers.lookup method :=
  (lifeBooks_of_trace h).served room
    (Option.filter_eq_some_iff.mpr ⟨hroom, hparticipant⟩) method trivial hbroken

/-- A method that was registered before there was a room. -/
theorem rpc_handlers_served_before_room :
    ∃ (tr : List LifeEvent) (c : RoomLife Nat), (lifeMachine Nat).Trace tr c ∧
      (c.rooms 0).methods.lookup (lit "m") = some 7 := by
  have h0 : (lifeMachine Nat).Trace [] RoomLife.initial := .start rfl
  have h1 := h0.step (LifeStep.registerRpc (lit "m") 7 ⟨true, true⟩ _)
  have h2 := h1.step (LifeStep.start _ rfl)
  have h3 := h2.step (LifeStep.initializeSdk true _ rfl)
  have h4 := h3.step (LifeStep.runSection _ rfl)
  have h5 := h4.step (LifeStep.connectRoom 0 true _ rfl)
  have h6 := h5.step (LifeStep.checkStop 0 _ rfl)
  have h7 := h6.step (LifeStep.activateRoom 0 (fun _ => ⟨true, true⟩) _ rfl)
  have hnot : ¬ Broken ([.initialized, .activated 0 1] ++ [.answered (lit "m") true]) (lit "m") :=
    fun hbroken => Bool.noConfusion ((broken_answered true).mp hbroken)
  exact ⟨_, _, h7, rpc_handlers_served h7 rfl rfl hnot⟩

end Runs

end LivekitBridge
