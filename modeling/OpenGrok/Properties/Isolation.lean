import OpenGrok.Loop.Invariants
import OpenGrok.Server.Tables

/-! The isolation of tunnels.

Ids come from one pool and descriptors from one space, and the loop keeps everyone's
queues in one map; still, what a main connection sends, and what its clients send, changes
nothing but the connection, its proxy and the proxy's clients (`Isolated`). The frame
condition rests on `Names.Wf`: a descriptor is in the tables of one proxy at most, and is
then linked to that proxy and to no one else. -/
namespace OpenGrok

/-- The descriptor is a client of a proxy of the main connection. -/
def ClientOf (w : World) (A x : SockT) : Prop :=
  ∃ p px, w.proxies.lookup p = some px ∧ px.initiator = A ∧ px.sockToId.lookup x ≠ none

/-- The observers but the proxies of one main connection are as they were. -/
structure OthersKept (A : SockT) (r r' : Registry) : Prop where
  proxies : ∀ p px, px.initiator ≠ A → (r'.proxies.lookup p = some px ↔ r.proxies.lookup p = some px)
  freeGrok : r'.freeGrok = r.freeGrok
  http : r'.http = r.http

/-- Nothing changed but the main connection, its proxies and their clients. -/
structure Isolated (A : SockT) (w w' : World) : Prop where
  views : ∀ x, x ≠ A → ¬ClientOf w A x → w.openSocks.lookup x ≠ none → w'.view x = w.view x
  others : OthersKept A w.toRegistry w'.toRegistry

/-- The main connection is linked as it was, and waits for what it waited for. -/
def ReaderKept (A : SockT) (w w' : World) : Prop :=
  (w'.view A).linked = (w.view A).linked ∧ (w'.view A).queues.read = (w.view A).queues.read

/-- No id stands for a failed `accept`. -/
def World.Accepting (w : World) : Prop :=
  ∀ p t id, w.names.tunnel p = some t → t.idToSock.lookup id ≠ some (-1)

section
variable {env : Env} {P : Terms} {A : SockT} {w w' w'' : World}

theorem clientOf_iff {x : SockT} : ClientOf w A x ↔
    ∃ p t id, w.names.tunnel p = some t ∧ t.initiator = A ∧ t.sockToId.lookup x = some id := by
  constructor
  · intro hparts
    obtain ⟨p, px, hp, hA, hx⟩ := hparts
    obtain ⟨id, hid⟩ := Option.ne_none_iff_exists'.mp hx
    exact ⟨p, px.toTunnel, id, (World.proxy_names hp).1, hA, hid⟩
  · intro hparts
    obtain ⟨p, t, id, ht, hA, hid⟩ := hparts
    have ht : (w.proxies.lookup p).map GrokProxy.toTunnel = some t := ht
    obtain ⟨px, hp, rfl⟩ := Option.map_eq_some_iff.mp ht
    exact ⟨p, px, hp, hA, by simp [hid]⟩

theorem Shrinks.clientOf (h : Shrinks w.names w'.names) {x : SockT} (hx : ClientOf w' A x) :
    ClientOf w A x := by
  obtain ⟨p, t', id, ht', hA, hid⟩ := clientOf_iff.mp hx
  obtain ⟨t, ht, hi, hid⟩ := h.socks ht' hid
  exact clientOf_iff.mpr ⟨p, t, id, ht, hi.trans hA, hid⟩

/-! ### The other observers -/

namespace OthersKept
variable {r r' r'' : Registry}

theorem of_eq (h : r' = r) : OthersKept A r r' := by
  subst h
  exact ⟨fun _ _ _ => Iff.rfl, rfl, rfl⟩

theorem trans (h : OthersKept A r r') (h' : OthersKept A r' r'') : OthersKept A r r'' where
  proxies p px hpx := (h'.proxies p px hpx).trans (h.proxies p px hpx)
  freeGrok := h'.freeGrok.trans h.freeGrok
  http := h'.http.trans h.http

/-- A proxy of the main connection changes, comes or goes. -/
theorem of_proxy {p : Ptr} {old new : Option GrokProxy} (hold : r.proxies.lookup p = old)
    (hnew : r'.proxies.lookup p = new) (hno : ∀ px, old = some px → px.initiator = A)
    (hno' : ∀ px, new = some px → px.initiator = A)
    (hrest : ∀ q, q ≠ p → r'.proxies.lookup q = r.proxies.lookup q)
    (hfree : r'.freeGrok = r.freeGrok) (hhttp : r'.http = r.http) : OthersKept A r r' := by
  refine ⟨fun q px hpx => ?_, hfree, hhttp⟩
  by_cases hq : q = p
  · subst hq
    rw [hold, hnew]
    exact ⟨fun h => absurd (hno' px h) hpx, fun h => absurd (hno px h) hpx⟩
  · rw [hrest q hq]

theorem setProxy {p : Ptr} {px px' : GrokProxy} (hp : r.proxies.lookup p = some px)
    (hA : px.initiator = A) (hA' : px'.initiator = A) : OthersKept A r (r.setProxy p px') := by
  have hnew : (r.setProxy p px').proxies.lookup p = some px' := AList.lookup_insert _
  refine of_proxy hp hnew ?_ ?_ (fun q hq => ?_) rfl rfl
  · intro _ hsame
    cases hsame
    exact hA
  · intro _ hsame
    cases hsame
    exact hA'
  · simp [Registry.setProxy, hq]

end OthersKept

/-- A client is taken out of the tables of its owner's proxy. -/
theorem OthersKept.untabled {p : Ptr} {px : GrokProxy} (hp : w.proxies.lookup p = some px)
    (hA : px.initiator = A) (x : SockT) (id : CIdT) :
    OthersKept A w.toRegistry (w.untabled x p px id).toRegistry :=
  .setProxy hp hA hA

/-- A client leaves its owner's proxy. -/
theorem OthersKept.left {p : Ptr} {px : GrokProxy} (hp : w.proxies.lookup p = some px)
    (hA : px.initiator = A) (x : SockT) (b : IObserver) :
    OthersKept A w.toRegistry (w.left x (.grokProxy p) b).toRegistry := by
  have hset : w.toRegistry.setObserver (.grokProxy p) { b with clients := b.clients.erase x } =
      w.toRegistry.setProxy p { px with toIObserver := { b with clients := b.clients.erase x } } := by
    simp only [Registry.setObserver, hp]
  have h : OthersKept A w.toRegistry
      (w.toRegistry.setObserver (.grokProxy p) { b with clients := b.clients.erase x }) := by
    rw [hset]
    exact .setProxy hp hA hA
  exact ⟨h.proxies, h.freeGrok, h.http⟩

/-! ### Isolated changes -/

namespace Isolated

theorem trans (h : Isolated A w w') (hs : ∀ x, ClientOf w' A x → ClientOf w A x)
    (h' : Isolated A w' w'') : Isolated A w w'' where
  views x hx hno ho := by
    have hview := h.views x hx hno ho
    have ho' : w'.openSocks.lookup x ≠ none := by
      show (w'.view x).opened ≠ none
      rw [hview]
      exact ho
    exact (h'.views x hx (fun hx' => hno (hs x hx')) ho').trans hview
  others := h.others.trans h'.others

/-- The registry is as it was, and only the view of the main connection or of a client of its
proxies changed. -/
theorem of_view (hreg : w'.toRegistry = w.toRegistry)
    (hview : ∀ x, x ≠ A → ¬ClientOf w A x → w'.view x = w.view x) : Isolated A w w' where
  views _ hx hno _ := hview _ hx hno
  others := .of_eq hreg

theorem log {a : Action} (ha : a.fd = A) : Isolated A w (w.log a) :=
  .of_view rfl fun _ hx _ => w.view_log_other fun h => hx (h.trans ha)

theorem frame (type : UInt8) (payload : Bytes) :
    Isolated A w (FStreamer.send env A type payload w) :=
  .of_view (FStreamer.send_registry ..) fun x hx _ => by rw [World.view_frame, if_neg hx]

end Isolated

/-- A user's record changes no observer. -/
theorem OthersKept.gatherUser (fd : SockT) :
    OthersKept A w.toRegistry (FreeGrok.gatherUser fd w).2.toRegistry := by
  unfold FreeGrok.gatherUser
  split <;> exact ⟨fun _ _ _ => Iff.rfl, rfl, rfl⟩

/-! ### A new proxy -/

theorem World.created_observers (sock : SockT) (port listeningPort : UInt16) :
    (∀ q, q ≠ w.nextProxy →
      (w.created A sock port listeningPort).proxies.lookup q = w.proxies.lookup q) ∧
    (∃ px, (w.created A sock port listeningPort).proxies.lookup w.nextProxy = some px ∧
      px.initiator = A ∧ px.sockToId = ∅) ∧
    (w.created A sock port listeningPort).freeGrok = w.freeGrok ∧
    (w.created A sock port listeningPort).http = w.http := by
  have huser (v : World) : (FreeGrok.linkServer A w.nextProxy v).proxies = v.proxies ∧
      (FreeGrok.linkServer A w.nextProxy v).freeGrok = v.freeGrok ∧
      (FreeGrok.linkServer A w.nextProxy v).http = v.http := by
    unfold FreeGrok.linkServer FreeGrok.gatherUser
    cases v.users.lookup A <;> exact ⟨rfl, rfl, rfl⟩
  obtain ⟨hproxies, hfree, hhttp⟩ := huser ((w.newSock sock).allocated
    { socket := sock, initiator := A, listeningPort := port })
  simp only [World.created, World.observed, World.setProxy, Registry.setProxy, World.log_registry,
    Selector.add_registry, hproxies, hfree, hhttp]
  refine ⟨fun q hq => ?_, ⟨_, AList.lookup_insert _, rfl, rfl⟩, rfl, rfl⟩
  simp [World.allocated, World.newSock, hq]

theorem World.proxies_fresh (hw : w.names.Wf) : w.proxies.lookup w.nextProxy = none := by
  have h : (w.proxies.lookup w.nextProxy).map GrokProxy.toIObserver = none := hw.base_fresh
  exact Option.map_eq_none_iff.mp h

theorem OthersKept.created (hw : w.names.Wf) (sock : SockT) (port listeningPort : UInt16) :
    OthersKept A w.toRegistry (w.created A sock port listeningPort).toRegistry := by
  obtain ⟨hrest, ⟨px, hpx, hA, _⟩, hfree, hhttp⟩ :=
    World.created_observers (w := w) (A := A) sock port listeningPort
  refine .of_proxy (World.proxies_fresh hw) hpx nofun ?_ hrest hfree hhttp
  intro _ hsame
  cases hsame
  exact hA

/-- A proxy without clients is deleted. -/
theorem OthersKept.deleted {p : Ptr} {px : GrokProxy} (hp : w.proxies.lookup p = some px)
    (hA : px.initiator = A) (b : IObserver) :
    OthersKept A w.toRegistry (w.deleted p b []).toRegistry := by
  have hset : w.toRegistry.setObserver (.grokProxy p) { b with clients := ∅ } =
      w.toRegistry.setProxy p { px with toIObserver := { b with clients := ∅ } } := by
    simp only [Registry.setObserver, hp]
  have hfree : (w.toRegistry.setObserver (.grokProxy p) { b with clients := ∅ }).freeGrok =
      w.freeGrok := by rw [hset]; rfl
  have hhttp : (w.toRegistry.setObserver (.grokProxy p) { b with clients := ∅ }).http =
      w.http := by rw [hset]; rfl
  have hproxies : (w.toRegistry.setObserver (.grokProxy p) { b with clients := ∅ }).proxies =
      w.proxies.insert p { px with toIObserver := { b with clients := ∅ } } := by rw [hset]; rfl
  have hgone : (w.deleted p b []).proxies.lookup p = none := AList.lookup_erase ..
  refine .of_proxy hp hgone ?_ (fun _ hpx => by cases hpx) (fun q hq => ?_) hfree hhttp
  · intro _ hsame
    cases hsame
    exact hA
  · show (AList.erase p _).lookup q = _
    rw [Table.lookup_erase_ite, if_neg hq]
    show (w.toRegistry.setObserver (.grokProxy p) { b with clients := ∅ }).proxies.lookup q = _
    rw [hproxies, Table.lookup_insert_ite, if_neg hq]

/-- An id of a proxy stands for a client of its owner. -/
theorem World.Accepting.clientOf (ha : w.Accepting) (hw : w.names.Wf) {p : Ptr} {t : Tunnel}
    {id : CIdT} {x : SockT} (ht : w.names.tunnel p = some t) (hA : t.initiator = A)
    (hid : t.idToSock.lookup id = some x) : x ≠ -1 ∧ ClientOf w A x := by
  have hx : x ≠ -1 := by
    intro hsame
    subst hsame
    exact ha p t id ht hid
  exact ⟨hx, clientOf_iff.mpr ⟨p, t, id, ht, hA, hw.id_sock ht hid hx⟩⟩

/-- **What a frame does is isolated.** -/
theorem Command.isolated {said : List Reaction} (h : Command env P A w said w')
    (hl : w.names.linked A = some .freeGrok) (hw : w.names.Wf) (ha : w.Accepting) :
    Isolated A w w' := by
  have hcreated {sock : SockT} (hu : Unused w.toRegistry sock) (port listeningPort : UInt16) :
      Isolated A w (w.created A sock port listeningPort) ∧
        ∀ x, w.openSocks.lookup x ≠ none → x ≠ sock := by
    have hne (x : SockT) (ho : w.openSocks.lookup x ≠ none) : x ≠ sock := by
      intro hsame
      subst hsame
      exact ho hu.closed
    refine ⟨⟨fun x hx _ ho => ?_, .created hw sock port listeningPort⟩, hne⟩
    rw [World.view_created _ _ _ (hw.ne_unused hl hu), if_neg hx, if_neg (hne x ho)]
  cases h with
  | message type length buffer _ _ => exact .log rfl
  | granted type length buffer _ =>
    refine ⟨fun x hx _ _ => ?_, ?_⟩
    · rw [World.view_granted, if_neg hx]
      exact w.view_log_other hx
    · exact (OthersKept.gatherUser (w := w.log _) A).trans ⟨fun _ _ _ => Iff.rfl, rfl, rfl⟩
  | delivered p t id y length buffer body ht hA hid _ _ =>
    obtain ⟨_, hclient⟩ := ha.clientOf hw ht hA hid
    refine .of_view (Loop.send_registry ..) fun x hx hno => ?_
    have hne : x ≠ y := by
      intro hsame
      subst hsame
      exact hno hclient
    rw [World.view_send, if_neg hne]
    exact w.view_log_other hx
  | dropped p px id y o b buffer hp hA hid _ hly hb _ =>
    have ht := (World.proxy_names hp).1
    obtain ⟨hy, hclient⟩ := ha.clientOf hw ht hA hid
    obtain rfl := hw.sock_linked ht (hw.id_sock ht hid hy) hy hly
    refine ⟨fun x hx hno _ => ?_, ?_⟩
    · have hne : x ≠ y := by
        intro hsame
        subst hsame
        exact hno hclient
      rw [World.view_left, if_neg hne, World.view_untabled]
      exact w.view_log_other hx
    · have hp' : ((w.log (.message A grokDisconnect cIdSize (some buffer))).untabled y p px
          id).proxies.lookup p = some { px with
            sockToId := px.sockToId.erase y, idToSock := px.idToSock.erase id } :=
        AList.lookup_insert _
      exact (OthersKept.untabled (w := w.log _) hp hA y id).trans (.left hp' hA y b)
  | untabled p px id y buffer hp hA _ _ _ =>
    refine ⟨fun x hx _ _ => ?_, .untabled (w := w.log _) hp hA y id⟩
    rw [World.view_untabled]
    exact w.view_log_other hx
  | replied type payload _ _ => exact .frame type payload
  | touched =>
    refine ⟨fun x hx _ _ => ?_, ?_⟩
    · rw [World.view_gatherUser, if_neg hx]
    · exact .gatherUser A
  | created sock port listeningPort _ _ hu _ => exact (hcreated hu port listeningPort).1
  | discarded sock port _ _ hu _ =>
    obtain ⟨hisolated, hne⟩ := hcreated hu port 0
    obtain ⟨_, ⟨px, hpx, hA, _⟩, _, _⟩ := World.created_observers (w := w) (A := A) sock port 0
    have hsent := FStreamer.send_registry env (w.created A sock port 0) A grokError
      [internalServerError]
    refine ⟨fun x hx hno ho => ?_, ?_⟩
    · rw [World.view_deleted, if_neg (hne x ho)]
      show (FStreamer.send env A grokError [internalServerError]
        (w.created A sock port 0)).view x = _
      rw [World.view_frame, if_neg hx]
      exact hisolated.views x hx hno ho
    · exact hisolated.others.trans ((OthersKept.of_eq hsent).trans (.deleted (hsent ▸ hpx) hA _))

theorem World.Accepting.of_shrinks (ha : w.Accepting) (h : Shrinks w.names w'.names) :
    w'.Accepting := by
  intro p t' id ht' hid
  obtain ⟨t, ht, _, hid⟩ := h.ids ht' hid
  exact ha p t id ht hid

theorem Commands.isolated {said : List Reaction} (h : Commands env P A w said w')
    (hl : w.names.linked A = some .freeGrok) (hw : w.names.Wf) (hA : A ≠ -1) (ha : w.Accepting) :
    Isolated A w w' ∧ Shrinks w.names w'.names := by
  induction h with
  | refl => exact ⟨.of_view rfl fun _ _ _ => rfl, .of_eq rfl⟩
  | tail hsteps hc ih =>
    obtain ⟨hisolated, hshrinks⟩ := ih
    obtain ⟨_, hw', hl', _⟩ := Commands.effects hsteps hl hw hA
    exact ⟨hisolated.trans (fun x hx => hshrinks.clientOf hx)
      (hc.isolated hl' hw' (ha.of_shrinks hshrinks)), hshrinks.trans hc.shrinks⟩

/-! ### What an event does -/

variable {os : Os} {ev : Loop.Event} {broke : Bool}

theorem MainRead.isolated (h : MainRead env P A w w') (hw : w.Sound) (hA : A ≠ -1)
    (hl : w.names.linked A = some .freeGrok) (ha : w.Accepting) : Isolated A w w' := by
  cases h with
  | failed _ _ =>
    refine .of_view rfl fun x hx _ => ?_
    rw [World.view_clearAll, if_neg hx]
    exact w.view_log_other hx
  | heard fd' state length u64 buffer bytes rest _ _ =>
    refine .of_view rfl fun x hx _ => ?_
    rw [World.view_heard, if_neg hx]
  | @frame w2 w3 _ _ hheard hcommands hadvanced =>
    have hreg := hheard.registry
    have hfirst : Isolated A w w2 := .of_view hreg fun x hx _ => (hheard.view x).2 hx
    have ha2 : w2.Accepting := by
      unfold World.Accepting
      rw [hreg]
      exact ha
    have hclients (x : SockT) (hx : ClientOf w2 A x) : ClientOf w A x := by
      unfold ClientOf at hx
      rwa [hreg] at hx
    obtain ⟨hmiddle, hshrinks⟩ := hcommands.isolated (hreg ▸ hl) (hheard.sound hw).wf hA ha2
    have hlast : Isolated A w3 w' :=
      .of_view hadvanced.registry fun x hx _ => (hadvanced.view x).2 hx
    exact (hfirst.trans hclients hmiddle).trans
      (fun x hx => hclients x (hshrinks.clientOf hx)) hlast

/-- Writing to the main connection, or to a client of its proxy. -/
theorem written_isolated (hw : w.Sound) (hA : ev.fd ≠ -1) (hfd : ev.fd = A ∨ ClientOf w A ev.fd)
    (h : Loop.written os ev w = .ok w') :
    Isolated A w w' ∧ w'.toRegistry = w.toRegistry ∧ w'.Sound := by
  unfold Loop.written at h
  split at h
  · obtain ⟨hreg, hframe⟩ := performWriteQueue_frame h
    have heff : Effects (Env.plain []) Loop.anyTerms w w' := performWriteQueue_effects hw hA h
    refine ⟨.of_view hreg fun x hx hno => hframe x ?_, hreg, heff.sound hw⟩
    intro hsame
    subst hsame
    exact hfd.elim hx hno
  · cases h
    exact ⟨.of_view rfl fun _ _ _ => rfl, rfl, hw⟩

/-- Who is a client of whose proxy is a matter of the registry. -/
theorem ClientOf.of_registry (hreg : w'.toRegistry = w.toRegistry) {x : SockT}
    (h : ClientOf w' A x) : ClientOf w A x := by
  unfold ClientOf at h
  rwa [hreg] at h

/-- An event of the main connection that is no HUP. -/
theorem main_isolated (hw : w.Sound) (hA : ev.fd ≠ -1) (ha : w.Accepting)
    (hl : w.names.linked ev.fd = some .freeGrok) (hos : os.Fresh w.toRegistry)
    (hup : ev.hangsUp = false) (h : Loop.handleEvent env os ev w = .ok (broke, w')) :
    Isolated ev.fd w w' := by
  rw [handleEvent_linked hw hA hl hup] at h
  obtain ⟨w1, hwritten, h⟩ := Except.bind_ok_iff.mp h
  obtain ⟨hwrite, hreg, hw1⟩ := written_isolated hw hA (.inl rfl) hwritten
  split at h
  · obtain ⟨_, hread, h⟩ := Except.bind_ok_iff.mp h
    cases h
    have hl1 : w1.names.linked ev.fd = some .freeGrok := by
      rw [hreg]
      exact hl
    have ha1 : w1.Accepting := by
      unfold World.Accepting
      rw [hreg]
      exact ha
    have hmain : MainRead env Loop.anyTerms ev.fd w1 w' :=
      readMain_read hw1 hA hl1 (hreg ▸ hos) (fun _ _ => trivial) (fun _ => trivial) hread
    exact hwrite.trans (fun x hx => hx.of_registry hreg) (hmain.isolated hw1 hA hl1 ha1)
  · cases h
    exact hwrite

/-- What leaves the main connection's view alone leaves its reader alone. -/
theorem ReaderKept.of_view (h : w'.view A = w.view A) : ReaderKept A w w' := by
  rw [ReaderKept, h]
  exact ⟨rfl, rfl⟩

/-- So does a frame that is queued for it. -/
theorem ReaderKept.frame (h : w'.view A = w.view A) (type : UInt8) (payload : Bytes) :
    ReaderKept A w (FStreamer.send env A type payload w') := by
  unfold ReaderKept
  rw [World.view_frame, if_pos rfl, ← h]
  exact View.frame_fields env A type payload (w'.view A)

/-- A client of a proxy hangs up. -/
theorem client_gone {p : Ptr} {t : Tunnel} {id : CIdT} (ht : w.names.tunnel p = some t)
    (hA : t.initiator = A) (hid : t.sockToId.lookup ev.fd = some id) (hne : ev.fd ≠ A)
    (hl : w.names.linked ev.fd = some (.grokProxy p))
    (h : Loop.forceDisconnect env ev.fd true true w = .ok w') :
    Isolated A w w' ∧ ReaderKept A w w' := by
  obtain ⟨px, id', b, hpx, _, hb, rfl⟩ := client_hangUp hl h
  obtain rfl : t = px.toTunnel := Option.some.inj (ht.symm.trans (World.proxy_names hpx).1)
  have hA : px.initiator = A := hA
  have hsend : (FreeGrok.sendDisconnected env px.initiator id'
      (w.untabled ev.fd p px id')).toRegistry = (w.untabled ev.fd p px id').toRegistry :=
    FStreamer.send_registry ..
  refine ⟨⟨fun x hx hno _ => ?_, ?_⟩, ?_⟩
  · have hne : x ≠ ev.fd := by
      intro hsame
      subst hsame
      exact hno (clientOf_iff.mpr ⟨p, _, id, ht, hA, hid⟩)
    have hne' : x ≠ px.initiator := fun he => hx (he.trans hA)
    unfold FreeGrok.sendDisconnected
    rw [World.view_left, if_neg hne, World.view_frame, if_neg hne', World.view_untabled]
  · have hpx' : (w.untabled ev.fd p px id').proxies.lookup p = some { px with
        sockToId := px.sockToId.erase ev.fd, idToSock := px.idToSock.erase id' } :=
      AList.lookup_insert _
    rw [← hsend] at hpx'
    exact (OthersKept.untabled hpx hA ev.fd id').trans ((OthersKept.of_eq hsend).trans
      (.left hpx' hA ev.fd b))
  · unfold ReaderKept
    rw [World.view_left, if_neg (Ne.symm hne), hA]
    exact ReaderKept.frame (w := w) (World.view_untabled w A ev.fd p px id') _ _

/-- Any event of a client of a proxy. -/
theorem client_isolated (hw : w.Sound) (hfd : ev.fd ≠ -1) (hl : w.names.linked A = some .freeGrok)
    (hclient : ClientOf w A ev.fd) (h : Loop.handleEvent env os ev w = .ok (broke, w')) :
    Isolated A w w' ∧ ReaderKept A w w' := by
  obtain ⟨p, t, id, ht, hA, hid⟩ := clientOf_iff.mp hclient
  have hob : w.observers.lookup ev.fd = none := hw.wf.sock_unobserved ht hid hfd
  have hne : ev.fd ≠ A := by
    intro he
    cases hw.wf.sock_linked ht hid hfd (he ▸ hl)
  have hwrite {w1 : World} (h : Loop.written os ev w = .ok w1) :
      Isolated A w w1 ∧ w1.view A = w.view A := by
    refine ⟨(written_isolated hw hfd (.inr hclient) h).1, ?_⟩
    unfold Loop.written at h
    split at h
    · exact (performWriteQueue_frame h).2 A (Ne.symm hne)
    · cases h
      rfl
  cases hup : ev.hangsUp with
  | true =>
    have hhup : (ev.events.epollhup || ev.events.epollrdhup) = true := hup
    rw [Loop.handleEvent, if_pos hhup] at h
    obtain ⟨w1, hgone, h⟩ := Except.bind_ok_iff.mp h
    cases h
    simp only [Loop.hangUp, hob] at hgone
    cases hlc : w.names.linked ev.fd with
    | none =>
      cases (forceDisconnect_unknown env 3 hlc hob).symm.trans hgone
      exact ⟨.of_view rfl fun _ _ _ => rfl, .of_view rfl⟩
    | some o =>
      obtain rfl := hw.wf.sock_linked ht hid hfd hlc
      exact client_gone ht hA hid hne hlc hgone
  | false =>
    cases hlc : w.names.linked ev.fd with
    | none =>
      obtain ⟨hisolated, hview⟩ := hwrite (handleEvent_unlinked hob hlc hup h)
      exact ⟨hisolated, .of_view hview⟩
    | some o =>
      obtain rfl := hw.wf.sock_linked ht hid hfd hlc
      rw [handleEvent_linked hw hfd hlc hup] at h
      obtain ⟨w1, hwritten, h⟩ := Except.bind_ok_iff.mp h
      obtain ⟨hisolated, hview⟩ := hwrite hwritten
      obtain ⟨_, hreg, hw1⟩ := written_isolated hw hfd (.inr hclient) hwritten
      split at h
      · obtain ⟨w2, hread, h⟩ := Except.bind_ok_iff.mp h
        cases h
        obtain ⟨t', ht', ⟨_, rfl⟩ | ⟨id', bytes, _, _, rfl⟩⟩ :=
          readClient_spec hw1 hfd (by rw [hreg]; exact hlc) hread
        · exact ⟨hisolated, .of_view hview⟩
        · rw [hreg] at ht'
          obtain rfl : t = t' := Option.some.inj (ht.symm.trans ht')
          have hlog : Isolated A w1 (w1.log (.recv ev.fd bytes)) := by
            refine .of_view rfl fun x _ hno => w1.view_log_other fun he => hno ?_
            rw [show x = ev.fd from he]
            unfold ClientOf
            rw [hreg]
            exact hclient
          rw [hA]
          refine ⟨hisolated.trans (fun x hx => hx.of_registry hreg)
            (hlog.trans (fun x hx => hx) (.frame ..)), .frame ?_ _ _⟩
          have hrecv : A ≠ (Action.recv ev.fd bytes).fd := Ne.symm hne
          exact (w1.view_log_other hrecv).trans hview
      · cases h
        exact ⟨hisolated, .of_view hview⟩

end

/-! ### Runs in which `accept` gives descriptors -/

namespace Loop

/-- `accept` gives an open descriptor each time it is called. -/
def AcceptsOpen (s : State) : Input → Prop
  | .wait _ => True
  | .handle os =>
    match s.pending with
    | [] => True
    | ev :: _ => ev.event.hangsUp = false → s.world.observers.lookup ev.event.fd ≠ none →
        os.accept ≠ -1

instance (s : State) : ∀ i, Decidable (AcceptsOpen s i)
  | .wait _ => isTrue trivial
  | .handle os =>
    match h : s.pending with
    | [] => isTrue (by simp [AcceptsOpen, h])
    | ev :: _ => decidable_of_iff (ev.event.hangsUp = false →
        s.world.observers.lookup ev.event.fd ≠ none → os.accept ≠ -1) (by simp [AcceptsOpen, h])

/-- What its events promise. -/
def accepting : Terms := { anyTerms with refuse := fun _ => False }

theorem AcceptsOpen.promised {env : Env} {s : State} {i : Input} (h : AcceptsOpen s i) :
    Promised env accepting s i := by
  cases i with
  | wait batch => trivial
  | handle os =>
    intro ev rest hpending
    refine { keeps_any env os ev.event s.world with refuse := fun hup o ho hneg => ?_ }
    simp only [AcceptsOpen, hpending] at h
    exact h hup (by simp [ho]) hneg

end Loop

section
variable {env : Env} {l : Listeners} {s : Loop.State} {A : SockT} {os : Os}

theorem Effect.accepting {w w' : World} (h : Effect env Loop.accepting w w') (ha : w.Accepting) :
    w'.Accepting := by
  obtain ⟨p, px, fd, hopen, _, hp, _, _, rfl⟩ | hshrinks := h.shrinks
  · intro q t id ht hid
    rw [World.names_announced w fd env hp] at ht
    dsimp only at ht
    rw [Function.update_apply] at ht
    split at ht
    · cases ht
      rw [Table.lookup_insert_ite] at hid
      split at hid
      · exact hopen (Option.some.inj hid)
      · exact ha p _ id (World.proxy_names hp).1 hid
    · exact ha q t id ht hid
  · exact ha.of_shrinks hshrinks

theorem Reachable.accepting (h : ReachableIf env l Loop.AcceptsOpen s) : s.world.Accepting := by
  have hreg {w w' : World} (hreg : w'.toRegistry = w.toRegistry) (ha : w.Accepting) :
      w'.Accepting := ha.of_shrinks (.of_eq (by rw [hreg]))
  refine h.invariant (fun _ _ hi => hi.promised) ?_ fun fd w w' _ hw ha hhandled => ?_
  · intro p t id ht
    cases ht
  · exact hhandled.invariant hw (fun _ _ _ ha he => he.accepting ha)
      (fun _ _ _ ha hh => hreg hh.registry ha) (fun _ _ _ ha hv => hreg hv.registry ha) ha

/-- **A frame is isolated.** -/
theorem processMessage_isolated {w w' : World} (hw : w.Sound) (hA : A ≠ -1) (ha : w.Accepting)
    (hl : w.names.linked A = some .freeGrok) (hos : os.Fresh w.toRegistry) {type : UInt8}
    {length : Nat} {buffer : Option Bytes}
    (h : FreeGrok.processMessage env os type length A buffer w = .ok w') :
    Isolated A w w' ∧ ReaderKept A w w' := by
  have hcommands : Commands env Loop.anyTerms A w _ w' :=
    FreeGrok.processMessage_commands hw.wf hA hos (fun _ _ => trivial) h
  obtain ⟨_, _, hl', hread⟩ := hcommands.effects hl hw.wf hA
  exact ⟨(hcommands.isolated hl hw.wf hA ha).1, hl'.trans hl.symm, hread⟩

/-- No other main connection, no HTTP client and no client of another owner is a client of the main
connection. -/
theorem World.Sound.apart {w : World} (hw : w.Sound) {x : SockT} (hx : x ≠ -1)
    (hother : w.linkedClients.lookup x = some .freeGrok ∨
      w.linkedClients.lookup x = some .httpInterface ∨ ∃ B, B ≠ A ∧ ClientOf w B x) :
    ¬ClientOf w A x ∧ w.openSocks.lookup x ≠ none := by
  have hlinked {o : ObserverPtr} (ho : o = .freeGrok ∨ o = .httpInterface)
      (hlx : w.names.linked x = some o) : ¬ClientOf w A x ∧ w.openSocks.lookup x ≠ none := by
    refine ⟨fun hclient => ?_, (hw.wf.linked_open hx hlx).1⟩
    obtain ⟨p, t, id, ht, _, hid⟩ := clientOf_iff.mp hclient
    obtain rfl := hw.wf.sock_linked ht hid hx hlx
    obtain ho | ho := ho <;> cases ho
  obtain hlx | hlx | ⟨B, hB, hclient⟩ := hother
  · exact hlinked (.inl rfl) hlx
  · exact hlinked (.inr rfl) hlx
  · obtain ⟨p, t, id, ht, hi, hid⟩ := clientOf_iff.mp hclient
    refine ⟨fun hclient' => ?_, hw.wf.sock_open ht hid hx⟩
    obtain ⟨q, u, j, hu, hi', hj⟩ := clientOf_iff.mp hclient'
    obtain rfl := hw.wf.sock_one ht hu hid hj hx
    rw [ht] at hu
    cases hu
    exact hB (hi.symm.trans hi')

/-- Two owners, 5 and 8, with a proxy each; 7 is a client of the proxy of 5, under the id 0. -/
def twoOwners : List Loop.Input :=
  [.readable 3 0, .accept 5, .readable 5 2,
    .handle { recv := .data [10, 0], socket := 6, getsockname := some 8000 },
    .readable 3 0, .accept 8, .readable 8 4,
    .handle { recv := .data [10, 0], socket := 9, getsockname := some 8001 },
    .readable 6 3, .accept 7]

end

end OpenGrok
