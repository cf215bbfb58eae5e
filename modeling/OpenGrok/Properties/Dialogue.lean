import OpenGrok.Properties.Exchanges
import OpenGrok.Properties.Roster

/-! The server follows the protocol.

What passes over a main connection from the time it is accepted is a dialogue of the
protocol's machine, and the tunnel the machine is left with is the one the server has
for the connection. -/
namespace OpenGrok

/-! ### What an effect means to a main connection -/

/-- What passes over a main connection while something happens. -/
inductive Passed (env : Env) (x : SockT) (w w' : World) : Prop where
  | elsewhere : w'.names.linked x ≠ some .freeGrok → Passed env x w w'
  | started : w'.turns x = [] → w'.queuedBytes x = [] → w'.names.standing x = .idle →
      Passed env x w w'
  | quiet : w.names.linked x = some .freeGrok → Says env x w [] w' →
      w'.names.account x = w.names.account x → Passed env x w w'
  | exchanged (said : List Turn) : w.names.linked x = some .freeGrok → Says env x w said w' →
      Exchange env.serverName env.magic (w.names.account x) said (w'.names.account x) →
      Passed env x w w'

section
variable {env : Env} {os : Os} {P : Terms} {w w' v : World} {x : SockT} {p : Ptr} {t : Tunnel}

/-- Nothing is said, and the names that matter are the same. -/
theorem Passed.of_grows (hl : w.names.linked x = some .freeGrok)
    (ha : w'.names.account x = w.names.account x) (h : Grows (Action.Silent x) w w') :
    Passed env x w w' :=
  .quiet hl (.of_grows h) ha

/-- The tunnel of the connection's proxy changes. -/
theorem Names.Wf.account_owner {n : Names} (hw : n.Wf) (n' : Names) {t' : Tunnel} {ids : Set CIdT}
    (ht : n.tunnel p = some t) (hx : t.initiator = x) (hu : n'.user = n.user)
    (ht' : n'.tunnel p = some t') (hids : ∀ id, id ∈ ids ↔ (t'.idToSock.lookup id).isSome) :
    n.standing x = .serving t.listeningPort {id | (t.idToSock.lookup id).isSome} ∧
      n'.account x = { n.account x with standing := .serving t'.listeningPort ids } := by
  obtain ⟨u, huser, hs⟩ := hw.owner ht
  rw [hx] at huser
  exact ⟨Names.standing_serving huser hs ht,
    Names.account_serving (congrFun hu x) huser hs ht' hids⟩

/-- A client is taken out of the tables. -/
theorem World.untabled_account {px : GrokProxy} (hw : w.names.Wf) (y : SockT) (id : CIdT)
    (hp : w.proxies.lookup p = some px) (hu : w'.names.user = w.names.user)
    (ht : w'.names.tunnel = (w.untabled y p px id).names.tunnel) (hne : px.initiator ≠ x) :
    w'.names.account x = w.names.account x := by
  rw [World.names_untabled w y hp] at ht
  exact Names.account_update (congrFun hu x) ht (hw.server_ne (World.proxy_names hp).1 hne)

/-! ### Commands of others -/

theorem Command.passed {A : SockT} {said : List Reaction} (h : Command env P A w said w')
    (hw : w.names.Wf) (hx : x ≠ -1) (hA : A ≠ x) (hl : w.names.linked x = some .freeGrok) :
    Passed env x w w' := by
  have hmessage (type : UInt8) (length : Nat) (buffer : Option Bytes) :
      Grows (Action.Silent x) w (w.log (.message A type length buffer)) :=
    .log fun he => absurd he hA
  cases h with
  | message type length buffer _ _ => exact .of_grows hl rfl (hmessage ..)
  | granted type length buffer _ =>
    refine .of_grows hl (Names.account_same ?_ ?_) ((hmessage type length buffer).trans
      (.of_eq (FreeGrok.gatherUser_trace ..)))
    · rw [World.names_granted]
      exact Function.update_of_ne hA.symm ..
    · rw [World.names_granted]
      rfl
  | delivered p t id y length buffer body ht _ hid _ _ =>
    have hy : x ≠ y := hw.client_ne ht hid hx hl
    refine .of_grows hl ?_ ((hmessage ..).trans (.send body fun he => absurd he.symm hy))
    rw [Loop.send_registry]
    rfl
  | dropped p px id y o b buffer hp hi hid _ hly hb _ =>
    have hne : px.initiator ≠ x := fun hsame => hA (hi.symm.trans hsame)
    have hb' : ((w.log (.message A grokDisconnect cIdSize (some buffer))).untabled y p px id).names.base o =
        some b := by
      rw [World.names_untabled (w.log _) y hp]
      exact hb
    by_cases hy : y = x
    · subst hy
      refine .elsewhere ?_
      rw [World.names_left _ y hb']
      simp
    · refine .of_grows hl (World.untabled_account hw y id hp ?_ ?_ hne)
        ((hmessage ..).trans ((Grows.of_eq rfl).trans (.left o b fun he => absurd he hy)))
      · rw [World.names_left _ y hb', World.names_untabled (w.log _) y hp]
        rfl
      · exact World.dropped_tunnel _ y id hp hb
  | untabled p px id y buffer hp hi hid _ _ =>
    have hne : px.initiator ≠ x := fun hsame => hA (hi.symm.trans hsame)
    refine .of_grows hl (World.untabled_account hw y id hp ?_ rfl hne)
      ((hmessage ..).trans (.of_eq rfl))
    rw [World.names_untabled (w.log _) y hp]
    rfl
  | replied type payload _ _ =>
    refine .of_grows hl ?_ (.frame type payload (fun he => absurd he hA) fun _ he => absurd he hA)
    rw [FStreamer.send_registry]
  | touched =>
    refine .of_grows hl (Names.account_same ?_ ?_) (.of_eq (FreeGrok.gatherUser_trace ..))
    · rw [World.names_gatherUser]
      exact Function.update_of_ne hA.symm ..
    · rw [World.names_gatherUser]
  | created sock port listeningPort _ _ _ _ =>
    have hnames := World.names_created w A sock port listeningPort
    refine .of_grows hl (Names.account_update ?_ (congrArg Names.tunnel hnames) hw.server_new)
      (.created sock port listeningPort fun he => absurd he hA)
    rw [hnames]
    exact Function.update_of_ne hA.symm ..
  | discarded sock port _ _ hunused _ =>
    have hsock : x ≠ sock := hw.ne_unused hl hunused
    refine .of_grows hl (Names.account_same ?_ ?_) (.trans (.trans
      (.created sock port 0 fun he => absurd he hA) (.frame grokError _ (fun he => absurd he hA)
        fun _ he => absurd he hA)) (.deleted _ _ [] nofun fun he => absurd he.symm hsock))
    · rw [World.discarded_names env hw]
      exact Function.update_of_ne hA.symm ..
    · rw [World.discarded_names env hw]

/-- A command links nobody. -/
theorem Command.unlinks {A : SockT} {said : List Reaction} {o : ObserverPtr}
    (h : Command env P A w said w') (hw : w.names.Wf) (hl : w'.names.linked x = some o) :
    w.names.linked x = some o := by
  cases h with
  | message type length buffer _ _ => exact hl
  | granted type length buffer _ =>
    rw [World.names_granted] at hl
    exact hl
  | delivered p t id y length buffer body _ _ _ _ _ =>
    rw [Loop.send_registry] at hl
    exact hl
  | dropped p px id y o' b buffer hp _ _ _ _ hb _ =>
    have hb' : ((w.log (.message A grokDisconnect cIdSize (some buffer))).untabled y p px id).names.base
        o' = some b := by
      rw [World.names_untabled (w.log _) y hp]
      exact hb
    rw [World.names_left _ y hb', World.names_untabled (w.log _) y hp] at hl
    dsimp only at hl
    rw [Function.update_apply] at hl
    split at hl
    · cases hl
    · exact hl
  | untabled p px id y buffer hp _ _ _ _ =>
    rw [World.names_untabled (w.log _) y hp] at hl
    exact hl
  | replied type payload _ _ =>
    rw [FStreamer.send_registry] at hl
    exact hl
  | touched =>
    rw [World.names_gatherUser] at hl
    exact hl
  | created sock port listeningPort _ _ _ _ =>
    rw [World.names_created] at hl
    exact hl
  | discarded sock port _ _ _ _ =>
    rw [World.discarded_names env hw] at hl
    exact hl

/-! ### Effects that are calm at the connection -/

/-- What an effect does first is calm, if the effect is. -/
theorem Grows.first {ok : Action → Prop} {a : Action} (h : Grows ok w w')
    (hlog : Grows (fun _ => True) (w.log a) w') : ok a := by
  obtain ⟨new, hnew, hall⟩ := h
  obtain ⟨later, hlater, _⟩ := hlog
  have hsame : new ++ w.trace = (later ++ [a]) ++ w.trace := by
    rw [← hnew, hlater, List.append_assoc]
    rfl
  have hnew := List.append_cancel_right hsame
  exact hall a (by simp [hnew])

/-- A command of the connection itself says something, unless it only looks the user up. -/
theorem Command.calm {said : List Reaction} (h : Command env P x w said w')
    (hgrows : Grows (Action.CalmAt x) w w') : w' = (FreeGrok.gatherUser x w).2 := by
  have hmessage {type : UInt8} {length : Nat} {buffer : Option Bytes}
      (hlater : Grows (fun _ => True) (w.log (.message x type length buffer)) w') : False := by
    rcases hgrows.first hlater rfl with h | h
    · exact h
    · exact h
  have hbind {port : Nat} (hlater : Grows (fun _ => True) (w.log (.bind x port)) w') : False := by
    rcases hgrows.first hlater rfl with h | h
    · exact h
    · exact h
  have hcreated (sock : SockT) (port listeningPort : UInt16) :
      (w.created x sock port listeningPort).trace = (w.log (.bind x port.toNat)).trace := by
    have hsame : (FreeGrok.linkServer x w.nextProxy ((w.newSock sock).allocated
        { socket := sock, initiator := x, listeningPort := port })).trace = w.trace :=
      FreeGrok.gatherUser_trace ..
    exact congrArg (_ :: ·) ((Selector.add_trace sock eventsR _).trans hsame)
  cases h with
  | message type length buffer _ _ => exact (hmessage (.refl _)).elim
  | granted type length buffer _ => exact (hmessage (.of_eq (FreeGrok.gatherUser_trace ..))).elim
  | delivered p t id y length buffer body _ _ _ _ _ => exact (hmessage (.send body trivial)).elim
  | dropped p px id y o b buffer _ _ _ _ _ _ _ =>
    exact (hmessage ((Grows.of_eq rfl).trans (.left o b trivial))).elim
  | untabled p px id y buffer _ _ _ _ _ => exact (hmessage (.of_eq rfl)).elim
  | replied type payload hreply _ =>
    rcases hgrows.first ((FStreamer.send_grows env w x type payload).mono fun _ _ => trivial) rfl with
      h | h
    · exact absurd hreply h
    · exact h.elim
  | touched => rfl
  | created sock port listeningPort _ _ _ _ => exact (hbind (.of_eq (hcreated ..))).elim
  | discarded sock port _ _ _ _ =>
    exact (hbind (((Grows.of_eq (hcreated ..)).trans (.frame grokError _ trivial fun _ => trivial)).trans
      (.deleted _ _ [] (fun _ _ => trivial) trivial))).elim

/-- A new client is announced to its owner. -/
theorem announced_passed {px : GrokProxy} {fd : SockT} (hw : w.names.Wf) (hr : Roster w)
    (hl : w.names.linked x = some .freeGrok) (hdraw : w.idPool.getId.1.toNat + 1 < 2 ^ 32)
    (hp : w.proxies.lookup p = some px) : Passed env x w (w.announced fd env p px) := by
  have hnames := World.names_announced w fd env hp
  have ht := (World.proxy_names hp).1
  by_cases hi : px.initiator = x
  · have hlookup (id : CIdT) : id ∈ insert w.idPool.getId.1 {id | (px.idToSock.lookup id).isSome} ↔
        ((px.idToSock.insert w.idPool.getId.1 fd).lookup id).isSome := by
      rw [Table.lookup_insert_ite]
      by_cases hid : id = w.idPool.getId.1 <;> simp [hid]
    obtain ⟨hstanding, haccount⟩ := hw.account_owner (w.announced fd env p px).names ht hi
      (by rw [hnames]) (by rw [hnames]; exact Function.update_self ..) hlookup
    have hfresh : w.idPool.getId.1 ∉ {id | (px.idToSock.lookup id).isSome} := by
      intro hmem
      obtain ⟨y, hy⟩ := Option.isSome_iff_exists.mp hmem
      exact hr.fresh hdraw p y ⟨_, ht, hy⟩
    refine .exchanged [.told grokConnected (ByteBuffer.encode cIdSize w.idPool.getId.1.toNat)] hl ?_ ?_
    · subst hi
      unfold World.announced FreeGrok.sendConnected
      refine .grows ?_ (.log fun _ => ⟨rfl, rfl, rfl, rfl⟩)
      refine .after (.of_eq ?_) (.send ..)
      rfl
    · rw [haccount]
      exact .connected _ _ _ hstanding hfresh
  · refine .of_grows hl (Names.account_update ?_ (congrArg Names.tunnel hnames)
      (hw.server_ne ht hi)) (.announced p px (fun he => absurd he hi) (fun _ he => absurd he hi)
        fun _ he => absurd he hi)
    rw [hnames]

/-- What a client sent is passed on to its owner. -/
theorem relayed_passed {y : SockT} {id : CIdT} {bytes : Bytes} (hw : w.names.Wf) (hr : Roster w)
    (hx : x ≠ -1) (hl : w.names.linked x = some .freeGrok) (hlen : bytes.length ≤ redirBufSize)
    (ht : w.names.tunnel p = some t) (hid : t.sockToId.lookup y = some id) :
    Passed env x w (FreeGrok.sendPacket env t.initiator id bytes (w.log (.recv y bytes))) := by
  have hnames := World.names_relayed env w y t.initiator id bytes
  have hyx : y ≠ x := by
    intro hsame
    subst hsame
    cases hw.sock_linked ht hid hx hl
  have hheard : Grows (Action.Silent x) w (w.log (.recv y bytes)) := .log fun he => absurd he hyx
  by_cases hi : t.initiator = x
  · subst hi
    obtain ⟨hstanding, haccount⟩ := hw.account_owner w.names ht rfl rfl ht fun _ => Iff.rfl
    obtain ⟨t', ht', hholds⟩ := hr.known ⟨t, ht, hid⟩
    cases Option.some.inj (ht'.symm.trans ht)
    refine .exchanged [.told grokPacket (ByteBuffer.encode cIdSize id.toNat ++ bytes)] hl ?_ ?_
    · exact .after hheard (.send ..)
    · rw [hnames]
      refine .relayed _ _ _ _ hstanding ?_ hlen
      show (t.idToSock.lookup id).isSome = true
      rw [hholds]
      rfl
  · exact .of_grows hl (by rw [hnames])
      (hheard.trans (.frame grokPacket _ (fun he => absurd he hi) fun _ he => absurd he hi))

theorem World.hungUp_names {px : GrokProxy} {y : SockT} {id : CIdT} {b : IObserver}
    (hp : w.proxies.lookup p = some px) (hb : w.names.base (.grokProxy p) = some b) :
    ((FreeGrok.sendDisconnected env px.initiator id (w.untabled y p px id)).left y (.grokProxy p)
      b).names = { (w.untabled y p px id).names with
        opened := Function.update w.names.opened y none
        linked := Function.update w.names.linked y none
        base := Function.update w.names.base (.grokProxy p)
          (some { b with clients := b.clients.erase y }) } := by
  have hreg : (FreeGrok.sendDisconnected env px.initiator id (w.untabled y p px id)).names =
      (w.untabled y p px id).names := congrArg Registry.names (FStreamer.send_registry ..)
  have hnames := World.names_untabled w y hp id
  have hbase : (FreeGrok.sendDisconnected env px.initiator id (w.untabled y p px id)).names.base =
      w.names.base := by rw [hreg, hnames]
  have hb' : (FreeGrok.sendDisconnected env px.initiator id (w.untabled y p px id)).base
      (.grokProxy p) = some b := (congrFun hbase _).trans hb
  rw [World.names_left _ y hb', hreg, hnames]

/-- A client's own close is reported to its owner. -/
theorem hungUp_passed {px : GrokProxy} {y : SockT} {id : CIdT} {b : IObserver} (hw : w.names.Wf)
    (hr : Roster w) (hl : w.names.linked x = some .freeGrok) (hp : w.proxies.lookup p = some px)
    (hid : px.sockToId.lookup y = some id) (hb : w.names.base (.grokProxy p) = some b)
    (hy : y ≠ x) : Passed env x w ((FreeGrok.sendDisconnected env px.initiator id
      (w.untabled y p px id)).left y (.grokProxy p) b) := by
  have ht := (World.proxy_names hp).1
  have huser : ((FreeGrok.sendDisconnected env px.initiator id (w.untabled y p px id)).left y
      (.grokProxy p) b).names.user = w.names.user := by
    rw [World.hungUp_names hp hb, World.names_untabled w y hp]
  have htunnel := World.hungUp_tunnel env y id hp hb
  by_cases hi : px.initiator = x
  · have hlookup (j : CIdT) : j ∈ {j | (px.idToSock.lookup j).isSome} \ {id} ↔
        ((px.idToSock.erase id).lookup j).isSome := by
      rw [Table.lookup_erase_ite]
      by_cases hj : j = id <;> simp [hj]
    obtain ⟨hstanding, haccount⟩ := hw.account_owner _ ht hi huser
      (by rw [htunnel, World.names_untabled w y hp]; exact Function.update_self ..) hlookup
    obtain ⟨t', ht', hholds⟩ := hr.known ⟨_, ht, hid⟩
    cases Option.some.inj (ht'.symm.trans ht)
    refine .exchanged [.told grokDisconnect (ByteBuffer.encode cIdSize id.toNat)] hl ?_ ?_
    · subst hi
      have hleft : Grows (Action.Silent px.initiator)
          (FreeGrok.sendDisconnected env px.initiator id (w.untabled y p px id)) _ :=
        .left (.grokProxy p) b fun he => absurd he hy
      have huntabled : Grows (Action.Silent px.initiator) w (w.untabled y p px id) := .of_eq rfl
      have hsaid : Says env px.initiator w [.told grokDisconnect (ByteBuffer.encode cIdSize id.toNat)]
          (FreeGrok.sendDisconnected env px.initiator id (w.untabled y p px id)) :=
        .after huntabled (.send ..)
      exact hsaid.grows hleft
    · rw [haccount]
      refine .disconnected _ _ id hstanding ?_
      show (px.idToSock.lookup id).isSome = true
      rw [hholds]
      rfl
  · exact .of_grows hl (World.untabled_account hw _ _ hp huser htunnel hi)
      (.hungUp p px id b (fun he => absurd he hi) (fun _ he => absurd he hi) fun he => absurd he hy)

/-- Another main connection leaves, with its proxy. -/
theorem torn_passed {A : SockT} {u : User} {px : GrokProxy} {b : IObserver} (hw : w.names.Wf)
    (hl' : (w.torn A env p px b).names.linked x = some .freeGrok)
    (hu : w.names.user A = some u) (hs : u.server = some p) (hp : w.proxies.lookup p = some px)
    (hb : w.names.base .freeGrok = some b) : Passed env x w (w.torn A env p px b) := by
  have hnames := World.names_torn w A env hp hb
  have ht := (World.proxy_names hp).1
  rw [hnames] at hl'
  dsimp only at hl'
  split at hl'
  · cases hl'
  · next hstays =>
    obtain ⟨hA, hclients⟩ := not_or.mp hstays
    have hsocket : px.socket ≠ x := by
      obtain ⟨b', hb', hobserved⟩ := hw.tunnel_observed ht
      cases Option.some.inj (hb'.symm.trans (World.proxy_names hp).2)
      intro hsame
      subst hsame
      cases (hw.observer_unlinked hobserved).symm.trans hl'
    refine .of_grows hl' ?_ (.torn p px b (fun y hy he => ?_) (fun he => absurd he hsocket)
      fun he => absurd he.symm hA)
    · refine Names.account_update ?_ (congrArg Names.tunnel hnames) (hw.server_ne ht ?_)
      · rw [hnames]
        exact Function.update_of_ne hA ..
      · intro hi
        exact hA (hi.symm.trans (hw.server_initiator hu hs ht))
    · have hy : x ∈ env.order px.clients.keys := by
        rw [← show y = x from he]
        exact hy
      exact absurd hy hclients

/-- A connection that is accepted for the main server starts afresh. -/
theorem admitted_passed {fd : SockT} {o : ObserverPtr} {b : IObserver} {before : List Action}
    (hw : w.names.Wf) (hx : x ≠ -1)
    (hl' : (w.admitted fd o b).names.linked x = some .freeGrok) (hb : w.names.base o = some b)
    (hloose : Loose w.toRegistry fd)
    (hview : fd ≠ -1 → (w.view fd).history = .accept fd :: before) :
    Passed env x w (w.admitted fd o b) := by
  have hnames := World.names_admitted w fd hb
  by_cases hfd : fd = x
  · subst hfd
    have hsame : Says env fd w [] (w.admitted fd o b) := .of_grows (.of_eq (World.admitted_trace ..))
    have hnothing {β : Type} (part : Action → List β) : (w.view fd).since part = [] := by
      unfold View.since
      rw [hview hx]
      rfl
    refine .started ?_ ?_ (Names.standing_none fun u hu => ?_)
    · rw [hsame.turns]
      exact congrArg (· ++ []) (hnothing _)
    · rw [hsame.queued]
      exact congrArg (· ++ []) (hnothing _)
    · rw [hnames] at hu
      have hu : w.names.user fd = some u := hu
      cases hs : u.server with
      | none => rfl
      | some p => cases (hloose hx).2.1.symm.trans (hw.server_linked hu hs)
  · rw [hnames] at hl'
    have hl : w.names.linked x = some .freeGrok :=
      (Function.update_of_ne (Ne.symm hfd) _ _).symm.trans hl'
    refine .of_grows hl ?_ (.of_eq (World.admitted_trace fd o b w))
    rw [hnames]
    rfl

/-- **An effect between the frames of a main connection is an exchange**, if the connection notices it
at all. -/
theorem Effect.passed (h : Effect env P w w') (hw : w.names.Wf) (hr : Roster w) (hx : x ≠ -1)
    (hdraw : ∀ px id, P.draw px id → id.toNat + 1 < 2 ^ 32)
    (hhear : ∀ y v bytes, P.hear y v bytes → bytes.length ≤ redirBufSize)
    (hgrows : Grows (Action.CalmAt x) w w') : Passed env x w w' := by
  by_cases hl' : w'.names.linked x = some .freeGrok
  case neg => exact .elsewhere hl'
  have hsame (hn : w'.names = w.names) (h : Grows (Action.Silent x) w w') : Passed env x w w' :=
    .of_grows (hn ▸ hl') (by rw [hn]) h
  cases h with
  | accepted fd item hunused =>
    have hl : w.names.linked x = some .freeGrok := by
      rw [World.names_accepted] at hl'
      exact hl'
    have hne : x ≠ fd := hw.ne_unused hl hunused
    refine .of_grows hl ?_ ((Grows.log fun he => absurd he.symm hne).trans (.of_eq rfl))
    rw [World.names_accepted]
    rfl
  | refused o item _ => exact hsame rfl (.of_eq rfl)
  | parsed fd parser _ _ =>
    rw [World.names_setParser] at hl'
    refine .of_grows hl' ?_ (.of_eq rfl)
    rw [World.names_setParser]
    rfl
  | announced p px fd before _ hid hp _ _ _ =>
    have hl : w.names.linked x = some .freeGrok := by
      rw [World.names_announced w fd env hp] at hl'
      exact hl'
    exact announced_passed hw hr hl (hdraw px _ hid) hp
  | admitted fd o b before _ hb hloose _ _ hview =>
    exact admitted_passed hw hx hl' hb hloose fun hne => (hview hne).2.2
  | flagged fd o b _ hb =>
    have hnames := World.names_flagged w fd hb
    rw [hnames] at hl'
    refine .of_grows hl' ?_ (.of_eq (Selector.modify_trace fd eventsR _))
    rw [hnames]
    rfl
  | wrote fd front rest n _ _ _ =>
    exact hsame (by rw [World.wrote_registry]) (.wrote front rest n fun _ => ⟨rfl, rfl, rfl, rfl⟩)
  | writeFailed fd _ =>
    exact hsame (by rw [World.writeFailed_registry]) (.writeFailed fun _ => ⟨rfl, rfl, rfl, rfl⟩)
  | readFailed fd _ _ _ => exact hsame rfl ((Grows.log fun _ => ⟨rfl, rfl, rfl, rfl⟩).trans (.of_eq rfl))
  | heard fd fd' state length u64 buffer bytes rest _ _ _ =>
    have hcalm : Action.CalmAt x (.recv fd bytes) := hgrows.first (.of_eq rfl)
    have hfd : fd ≠ x := by
      intro hsame
      rcases hcalm hsame with h | h
      · exact h
      · exact h
    exact hsame rfl ((Grows.log fun he => absurd he hfd).trans (.of_eq rfl))
  | command A hlA hcmd =>
    by_cases hA : A = x
    · subst hA
      obtain rfl := hcmd.calm hgrows
      obtain ⟨hsilent, haccount⟩ := FreeGrok.touched_account (x := A) (w := w) (.inr rfl)
      exact .of_grows hlA haccount hsilent
    · exact hcmd.passed hw hx hA (hcmd.unlinks hw hl')
  | relayed p t y id bytes hbytes ht hid =>
    rw [World.names_relayed] at hl'
    exact relayed_passed hw hr hx hl' (hhear _ _ _ hbytes) ht hid
  | captured y bytes _ hly =>
    have hy : y ≠ x := by
      intro hsame
      subst hsame
      cases hly.symm.trans hl'
    exact hsame rfl (.log fun he => absurd he hy)
  | served y bytes _ hly =>
    rw [Loop.send_registry] at hl'
    have hy : y ≠ x := by
      intro hsame
      subst hsame
      cases hly.symm.trans hl'
    exact hsame (by rw [Loop.send_registry]) (.send bytes fun he => absurd he hy)
  | forgot fd _ _ =>
    rw [World.names_forgot] at hl'
    refine .of_grows hl' ?_ (.of_eq rfl)
    rw [World.names_forgot]
    rfl
  | torn A u p px b _ _ hu hs hp hb => exact torn_passed hw hl' hu hs hp hb
  | left y o b _ hly hb _ _ _ =>
    have hnames := World.names_left w y hb
    by_cases hy : y = x
    · subst hy
      rw [hnames] at hl'
      simp at hl'
    · rw [hnames] at hl'
      have hl : w.names.linked x = some .freeGrok :=
        (Function.update_of_ne (Ne.symm hy) _ _).symm.trans hl'
      refine .of_grows hl ?_ (.left o b fun he => absurd he hy)
      rw [hnames]
      rfl
  | hungUp p px y id b _ hp hid _ hb =>
    rw [World.hungUp_names hp hb] at hl'
    by_cases hy : y = x
    · subst hy
      simp at hl'
    · have hl : w.names.linked x = some .freeGrok :=
        (Function.update_of_ne (Ne.symm hy) _ _).symm.trans hl'
      exact hungUp_passed hw hr hl hp hid hb hy

/-! ### Every run -/

/-- What passed over a main connection since it was accepted is a dialogue, which leaves the account
that the server keeps, and the server's turns were queued as frames. -/
def Converses (env : Env) (x : SockT) (w : World) : Prop :=
  w.names.linked x = some .freeGrok →
    (∃ chooses, Dialogue env.serverName env.magic ⟨chooses, .idle⟩ (w.turns x) (w.names.account x)) ∧
    w.queuedBytes x = (w.turns x).flatMap (Turn.bytes env)

theorem Passed.converses (h : Passed env x w w') (hd : Converses env x w) : Converses env x w' := by
  have hqueued {said : List Turn} (hsaid : Says env x w said w')
      (hold : w.queuedBytes x = (w.turns x).flatMap (Turn.bytes env)) :
      w'.queuedBytes x = (w'.turns x).flatMap (Turn.bytes env) := by
    rw [hsaid.queued, hsaid.turns, List.flatMap_append, hold]
  intro hl'
  cases h with
  | elsewhere hl => exact absurd hl' hl
  | started hturns hnothing hidle =>
    have haccount : w'.names.account x = ⟨(w'.names.account x).chooses, .idle⟩ := by
      rw [← hidle]
      rfl
    rw [hturns]
    refine ⟨⟨(w'.names.account x).chooses, ?_⟩, hnothing⟩
    rw [← haccount]
    exact .refl
  | quiet hl hsaid haccount =>
    obtain ⟨⟨chooses, hruns⟩, hold⟩ := hd hl
    refine ⟨⟨chooses, ?_⟩, hqueued hsaid hold⟩
    rw [hsaid.turns, List.append_nil, haccount]
    exact hruns
  | exchanged said hl hsaid hexchange =>
    obtain ⟨⟨chooses, hruns⟩, hold⟩ := hd hl
    exact ⟨⟨chooses, hsaid.turns ▸ hruns.tail hexchange⟩, hqueued hsaid hold⟩

/-- What happens is nothing that is said over the connection. -/
def Action.Mute (x : SockT) (a : Action) : Prop :=
  a.fd = x → a.isStart = false ∧ a.turns = [] ∧ a.queuedBytes = []

theorem Converses.of_grows (hd : Converses env x w) (hreg : w'.toRegistry = w.toRegistry)
    (h : Grows (Action.Mute x) w w') : Converses env x w' := by
  have hturns : w'.turns x = w.turns x :=
    h.since Action.turns fun _ ha he => ⟨(ha he).1, (ha he).2.1⟩
  have hqueued : w'.queuedBytes x = w.queuedBytes x :=
    h.since Action.queuedBytes fun _ ha he => ⟨(ha he).1, (ha he).2.2⟩
  intro hl
  rw [hreg] at hl
  rw [hturns, hqueued, hreg]
  exact hd hl

/-- What is between the reads of a main connection belongs to the dialogue. -/
theorem converses_unmoved (hx : x ≠ -1) :
    Unmoved env Loop.numbered x Roster (Converses env x) where
  effect hw hr hd heff hgrows :=
    (heff.passed hw.wf hr hx (fun _ _ hid => hid) (fun _ _ _ hlen => hlen) hgrows).converses hd
  heard hne _ hd hheard :=
    hd.of_grows hheard.registry (hheard.grows.mono fun _ ha he => absurd (ha.1.symm.trans he) hne)
  advanced _ _ hd hadvanced := hd.of_grows hadvanced.registry hadvanced.grows
  elsewhere hl hl' := absurd hl' hl

/-- What a read of a main connection leads to belongs to the dialogue. -/
theorem converses_read (hx : x ≠ -1) (hw : w.Sound) (hos : os.Fresh w.toRegistry)
    (hl : w.names.linked x = some .freeGrok) (hd : Converses env x w)
    (h : Loop.performReadQueue env os x .freeGrok w = .ok w') : Converses env x w' := by
  have hmute (bytes : Bytes) : Action.Mute x (.recv x bytes) := fun _ => ⟨rfl, rfl, rfl⟩
  cases readMain_heard hw hx hl h with
  | failed state length u64 buffer _ _ =>
    exact hd.of_grows rfl ((Grows.log fun _ => ⟨rfl, rfl, rfl⟩).trans (.of_eq rfl))
  | partly state length u64 buffer bytes _ _ _ _ =>
    exact hd.of_grows rfl ((Grows.log (hmute bytes)).trans (.of_eq rfl))
  | wholly state length u64 buffer bytes _ _ _ _ hreact =>
    have hd1 : Converses env x (w.heard x (.read x state length u64 (buffer ++ bytes)) [] bytes) :=
      hd.of_grows rfl ((Grows.log (hmute bytes)).trans (.of_eq rfl))
    have hnames : (w.heard x (.read x state length u64 (buffer ++ bytes)) [] bytes).toRegistry =
      w.toRegistry := rfl
    -- The next read is queued, and this one is done.
    have hnext {v : World} (len u64 : Nat) (state : PacketState) (hd : Converses env x v) :
        Converses env x (Loop.popRead x (Loop.recv x len state u64 v)) :=
      hd.of_grows rfl (.of_eq rfl)
    have hproper := FreeGrok.decode_proper env u64 (buffer ++ bytes) state
    generalize w.heard x (.read x state length u64 (buffer ++ bytes)) [] bytes = v at hreact hd1 hnames
    generalize FreeGrok.decode env u64 (buffer ++ bytes) state = decoded at hreact hproper
    rw [← hnames] at hl hos
    cases decoded with
    | more state' length' u64' =>
      cases hreact
      exact hnext length' u64' state' hd1
    | message type len payload =>
      obtain ⟨w2, hprocess, hreact⟩ := Except.bind_ok_iff.mp hreact
      cases hreact
      have hwf : v.names.Wf := hnames ▸ hw.wf
      obtain ⟨replies, hsaid, hexchange⟩ := FreeGrok.processMessage_exchange hwf hx hos hl hprocess
      exact hnext 2 0 .typeGot ((Passed.exchanged _ hl hsaid hexchange).converses hd1)
    | error code =>
      cases hreact
      have hreplied : Passed env x v (FStreamer.sendError env x code v) := by
        refine .exchanged [.refused code] hl (.send env x grokError [code] v) ?_
        have hsame : (FStreamer.sendError env x code v).names = v.names :=
          congrArg Registry.names (FStreamer.send_registry ..)
        rw [hsame]
        exact .garbled code hproper
      exact hnext 2 0 .typeGot (hreplied.converses hd1)

variable {l : Listeners} {s : Loop.State}

theorem ReachableIf.converses (h : ReachableIf env l Loop.IdsLeft s) (hx : x ≠ -1) :
    Converses env x s.world :=
  h.main (fun _ _ hi => hi.promised) Roster.kept_numbered (.boot l) (converses_unmoved hx)
    (fun hl => nomatch hl) (fun _ _ _ hx hw hos hl _ hd hread => converses_read hx hw hos hl hd hread)

/-- **The server follows the protocol**, in every run in which ids do not run out: what passed over a
main connection since it was accepted is a dialogue with an owner that begins without a tunnel, and
at its end the protocol's account is the one that the server keeps. -/
theorem follows_protocol (h : ReachableIf env l Loop.IdsLeft s) (x : SockT) (hx : x ≠ -1)
    (hl : s.world.names.linked x = some .freeGrok) :
    ∃ chooses, Dialogue env.serverName env.magic ⟨chooses, .idle⟩ (s.world.turns x)
      (s.world.names.account x) :=
  (h.converses hx hl).1

/-- The client 7 of the owner 5 sends two bytes, and half of what is queued for 5 is sent; a byte
comes in from 5, the first of a frame. -/
def relaying : List Loop.Input :=
  twoOwners ++ [.readable 7 6, .data [1, 2], .wait [⟨⟨5, { epollout := true }⟩, 2⟩],
    .handle { send := 9 }, .readable 5 2, .data [14]]

theorem follows_protocol_relaying :
    ∃ s chooses, ReachableIf (.plain []) .plain Loop.IdsLeft s ∧
      s.world.turns 5 = [.asked grokCreateServer 0 [], .told grokCreateServer [64, 31],
        .told grokConnected [0, 0, 0, 0], .told grokPacket [0, 0, 0, 0, 1, 2]] ∧
      Dialogue [] [] ⟨chooses, .idle⟩ (s.world.turns 5) (s.world.names.account 5) := by
  obtain ⟨s, hs, hl, hturns⟩ := ReachableIf.exists_of_run (.plain []) .plain Loop.IdsLeft relaying
    (fun s => s.world.linkedClients.lookup 5 = some .freeGrok ∧
      s.world.turns 5 = [.asked grokCreateServer 0 [], .told grokCreateServer [64, 31],
        .told grokConnected [0, 0, 0, 0], .told grokPacket [0, 0, 0, 0, 1, 2]])
    (by decide +kernel) (by decide +kernel)
  obtain ⟨chooses, hdialogue⟩ := follows_protocol hs 5 (by decide) hl
  exact ⟨s, chooses, hs, hturns, hdialogue⟩

end

end OpenGrok
