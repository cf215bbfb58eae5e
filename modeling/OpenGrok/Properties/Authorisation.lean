import OpenGrok.Loop.Invariants

/-! Who may select a port.

The right is kept in the user record of a descriptor, and the record is kept until
`on_disconnect` removes it, which it does only for a user that has a server. As long as
no main connection leaves with the right and without a server, the right belongs to the
connection that sent the magic; otherwise the next connection on the descriptor has it. -/
namespace OpenGrok

namespace Loop

/-- No main connection that hangs up has the right to select a port but no server. -/
def RightsSpent (s : State) : Input → Prop
  | .wait _ => True
  | .handle _ =>
    match s.pending with
    | [] => True
    | ev :: _ => ev.event.hangsUp = true →
        s.world.linkedClients.lookup ev.event.fd = some .freeGrok →
        FreeGrok.hasServer s.world ev.event.fd = false →
        ((s.world.users.lookup ev.event.fd).getD {}).canSelectPort = false

instance (s : State) : ∀ i, Decidable (RightsSpent s i)
  | .wait _ => isTrue trivial
  | .handle _ =>
    match h : s.pending with
    | [] => isTrue (by simp [RightsSpent, h])
    | ev :: _ => decidable_of_iff (ev.event.hangsUp = true →
        s.world.linkedClients.lookup ev.event.fd = some .freeGrok →
        FreeGrok.hasServer s.world ev.event.fd = false →
        ((s.world.users.lookup ev.event.fd).getD {}).canSelectPort = false)
        (by simp [RightsSpent, h])

/-- What such a run promises. -/
def spentTerms : Terms :=
  { anyTerms with leave := fun _ v => (v.user.getD {}).canSelectPort = false }

theorem promised_spent {env : Env} {s : State} {i : Input} (h : RightsSpent s i) :
    Promised env spentTerms s i := by
  cases i with
  | wait batch => trivial
  | handle os =>
    intro ev rest hpending
    simp only [RightsSpent, hpending] at h
    exact { keeps_any env os ev.event s.world with leave := h }

end Loop

/-- The rights of a descriptor's user, and the ports that were bound for it. -/
structure View.Rightful (magic : Bytes) (v : View) : Prop where
  authorised : v.Authorised magic
  chosen : History.Always (ChosenBy magic) v.history

theorem rightful_lasting (magic : Bytes) :
    Lasting magic Loop.spentTerms.toPromise fun _ v => v.Rightful magic where
  move hv hr hm := ⟨hm.rights (fun _ _ h => h) hv hr.authorised, hm.binds hr.authorised hr.chosen⟩
  heard _ hr hh := by
    refine ⟨hh.rights hr.authorised, ?_⟩
    cases hh
    exact hr.chosen.cons nofun
  advanced _ hr ha := by
    refine ⟨ha.rights hr.authorised, ?_⟩
    cases ha
    exact hr.chosen

section
variable {env : Env} {l : Listeners} {s : Loop.State}

theorem Reachable.rightful (h : ReachableIf env l Loop.RightsSpent s) {x : SockT} (hx : x ≠ -1) :
    (s.world.view x).Rightful env.magic := by
  refine h.views (fun _ _ => Loop.promised_spent) (rightful_lasting env.magic) (fun x _ => ?_) x hx
  exact ⟨⟨by simp [World.boot, World.view, View.since], fun _ => rfl⟩, trivial⟩

/-- **Authorisation belongs to the connection that earned it**, in a run in which no main
connection leaves with the right and without a server: the user of a descriptor may select a
port exactly if the connection open on it has sent the magic since it was accepted, and each
port of an owner's choice was bound for a connection that had. -/
theorem authorisation_earned (h : ReachableIf env l Loop.RightsSpent s) {fd : SockT}
    (hfd : fd ≠ -1) :
    (((s.world.users.lookup fd).getD {}).canSelectPort = true ↔
      (s.world.view fd).since (Action.authorisation env.magic) ≠ []) ∧
    History.Always (ChosenBy env.magic) (s.world.view fd).history :=
  ⟨(Reachable.rightful h hfd).authorised.rights, (Reachable.rightful h hfd).chosen⟩

/-- A main connection sends the magic and hangs up. -/
def authorisedLeaves : List Loop.Input :=
  [.readable 3 0, .accept 5, .readable 5 2, .data [30, 2], .readable 5 2, .data [9, 9],
    .wait [⟨⟨5, { epollhup := true }⟩, 2⟩], .handle {}]

/-- The next connection on the descriptor has a port of its choice bound without having sent
anything but its request. -/
theorem authorisation_inherited : ∃ s, Reachable (.plain [9, 9]) .plain s ∧
    ((s.world.users.lookup 5).getD {}).canSelectPort = true ∧
    (s.world.view 5).since (Action.authorisation [9, 9]) = [] ∧ .bind 5 8000 ∈ s.world.trace :=
  ReachableIf.exists_of_run _ _ _ (authorisedLeaves ++
      [.readable 3 0, .accept 5, .readable 5 3, .data [10, 2], .readable 5 3,
        .handle { recv := .data [64, 31], socket := 6, getsockname := some 8000 }]) _
    (by decide +kernel) (by decide +kernel)

/-- A main connection sends the magic, has a port of its choice bound and hangs up; the next one gets
its descriptor. -/
def authorisedOwner : List Loop.Input :=
  authorisedLeaves.take 6 ++ [.readable 5 2, .data [10, 2], .readable 5 2,
    .handle { recv := .data [64, 31], socket := 6, getsockname := some 8000 },
    .wait [⟨⟨5, { epollhup := true }⟩, 2⟩], .handle {}, .readable 3 0, .accept 5]

/-- The right was the first connection's, and went with it. -/
theorem authorisation_earned_once : ∃ s, ReachableIf (.plain [9, 9]) .plain Loop.RightsSpent s ∧
    .bind 5 8000 ∈ s.world.trace ∧ .close 5 ∈ s.world.trace ∧
    s.world.linkedClients.lookup 5 = some .freeGrok ∧
    ((s.world.users.lookup 5).getD {}).canSelectPort = false ∧
    History.Always (ChosenBy [9, 9]) (s.world.view 5).history := by
  obtain ⟨s, hs, hbound, hclosed, hl, hsince⟩ := ReachableIf.exists_of_run (.plain [9, 9]) .plain
    Loop.RightsSpent authorisedOwner (fun s => .bind 5 8000 ∈ s.world.trace ∧
      .close 5 ∈ s.world.trace ∧ s.world.linkedClients.lookup 5 = some .freeGrok ∧
      (s.world.view 5).since (Action.authorisation [9, 9]) = []) (by decide +kernel)
    (by decide +kernel)
  obtain ⟨hright, hchosen⟩ := @authorisation_earned (.plain [9, 9]) .plain s hs 5 (by decide)
  refine ⟨s, hs, hbound, hclosed, hl, ?_, hchosen⟩
  exact Bool.eq_false_iff.mpr fun hyes => hright.mp hyes hsince

end

end OpenGrok
