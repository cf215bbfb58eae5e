import OpenGrok.Server.Account
import OpenGrok.Server.Commands
import OpenGrok.Server.Tables

/-! Every message is answered by the protocol.

One lemma for each command: what `process_message` does about it is an exchange of the
protocol's machine, from the account that the server has before to the one it has
after. -/
namespace OpenGrok

section
variable {env : Env} {os : Os} {w w' v : World} {x : SockT}

/-! ### One message -/

/-- The message was logged, and what followed makes the exchange complete. -/
def Exchanged (env : Env) (x : SockT) (w : World) (asked : Turn) (w' : World) : Prop :=
  ∃ replies, Says env x w (asked :: replies) w' ∧
    Exchange env.serverName env.magic (w.names.account x) (asked :: replies) (w'.names.account x)

/-- An error reply changes nothing but the queue. -/
theorem Exchanged.refused {asked : Turn} {code : UInt8} (hsaid : Says env x w [asked] v)
    (haccount : v.names.account x = w.names.account x)
    (he : Exchange env.serverName env.magic (w.names.account x) [asked, .refused code]
      (w.names.account x)) : Exchanged env x w asked (FStreamer.sendError env x code v) := by
  refine ⟨[.refused code], hsaid.trans (.send env x grokError [code] v), ?_⟩
  have hsame : (FStreamer.sendError env x code v).names.account x = w.names.account x := by
    rw [← haccount]
    exact congrArg (Names.account · x) (congrArg Registry.names (FStreamer.send_registry ..))
  rw [hsame]
  exact he

namespace FreeGrok
variable {length : Nat} {buffer : Option Bytes}

theorem standing_iff : hasServer w x = false ↔ w.names.standing x = .idle := by
  rw [Names.standing_idle_iff, ← Bool.not_eq_true, hasServer_iff]
  constructor
  · intro h u hu
    cases hs : u.server with
    | none => rfl
    | some p => exact absurd ⟨u, p, hu, hs⟩ h
  · intro h hparts
    obtain ⟨u, p, hu, hs⟩ := hparts
    cases (h u hu).symm.trans hs

/-- A port that is not available was one that the user may choose. -/
theorem targetPort_none {reader : BufferReader}
    (h : targetPort os x length reader w = .ok (none, w')) :
    length = 2 ∧ ((w.names.user x).getD {}).canSelectPort = true := by
  unfold targetPort at h
  split at h
  · next hlength =>
    refine ⟨hlength, ?_⟩
    have huser := w.gatherUser_fst x
    generalize gatherUser x w = g at h huser
    obtain ⟨user, w1⟩ := g
    dsimp only at h huser
    split at h
    · next hright => rwa [huser] at hright
    · cases h
  · cases h

/-- Looking a user up says nothing and changes no account. -/
theorem touched_account {w1 : World} (h : w1 = w ∨ w1 = (gatherUser x w).2) :
    Grows (Action.Silent x) w w1 ∧ w1.names.account x = w.names.account x := by
  rcases h with rfl | rfl
  · exact ⟨.refl w1, rfl⟩
  · have hnames := World.names_gatherUser w x
    refine ⟨.of_eq (gatherUser_trace x w), ?_⟩
    refine Names.account_congr ?_ fun p _ => by rw [hnames]
    rw [hnames]
    simp

theorem touched_wf {w1 : World} (h : w1 = w ∨ w1 = (gatherUser x w).2) (hw : w.names.Wf) :
    w1.names.Wf := by
  rcases h with rfl | rfl
  · exact hw
  · rw [World.names_gatherUser]
    refine hw.set_user fun p => ?_
    cases w.names.user x <;> simp

theorem created_silent (sock : SockT) (port listeningPort : UInt16) :
    Grows (Action.Silent x) w (w.created x sock port listeningPort) :=
  .created sock port listeningPort fun _ => ⟨rfl, rfl, rfl, rfl⟩

/-- A new proxy serves its port, and has no clients. -/
theorem created_account (sock : SockT) (port listeningPort : UInt16) :
    (w.created x sock port listeningPort).names.account x =
      { w.names.account x with standing := .serving listeningPort ∅ } := by
  have hnames := World.names_created w x sock port listeningPort
  have huser : (w.created x sock port listeningPort).names.user x =
      some { (w.names.user x).getD {} with server := some w.nextProxy } := by
    rw [hnames]
    exact Function.update_self ..
  have htunnel : (w.created x sock port listeningPort).names.tunnel w.nextProxy =
      some { initiator := x, listeningPort := listeningPort } := by
    rw [hnames]
    exact Function.update_self ..
  unfold Names.account
  rw [Names.standing_serving huser rfl htunnel, huser]
  simp

/-- A proxy that is removed again leaves the owner with none. -/
theorem discarded_account (hw : w.names.Wf) (sock : SockT) (port : UInt16) :
    ((FStreamer.sendError env x internalServerError (w.created x sock port 0)).deleted
      w.nextProxy { socket := sock } []).names.account x =
      { w.names.account x with standing := .broken } := by
  have hnames := World.discarded_names env hw x sock port
  have hnone : w.names.tunnel w.nextProxy = none := by
    cases ht : w.names.tunnel w.nextProxy with
    | none => rfl
    | some t => exact absurd (hw.tunnel_lt ht) (Nat.lt_irrefl _)
  unfold FStreamer.sendError Names.account
  generalize (FStreamer.send env x grokError [internalServerError] (w.created x sock port 0)).deleted
    w.nextProxy { socket := sock } [] = v at hnames
  have huser : v.names.user x = some { (w.names.user x).getD {} with server := some w.nextProxy } := by
    rw [hnames]
    exact Function.update_self ..
  have htunnel : v.names.tunnel w.nextProxy = none := by
    rw [hnames]
    exact hnone
  rw [Names.standing_broken huser rfl htunnel, huser]
  rfl

theorem createServer_exchange (hw : w.names.Wf) (hos : os.Fresh w.toRegistry)
    (hl : w.names.linked x = some .freeGrok)
    (h : createServer env os x length { buffer }
      (w.log (.message x grokCreateServer length buffer)) = .ok w') :
    Exchanged env x w (.asked grokCreateServer length (buffer.getD [])) w' := by
  rcases createServer_spec h with ⟨hserver, rfl⟩ | ⟨hserver, port, w1, hport, hrest⟩
  · have hbusy : w.names.standing x ≠ .idle := by
      intro hidle
      have hno : hasServer (w.log (.message x grokCreateServer length buffer)) x = false :=
        standing_iff.mpr hidle
      rw [hno] at hserver
      cases hserver
    exact .refused (.message ..) rfl (.again _ _ hbusy)
  · have hidle : w.names.standing x = .idle := standing_iff.mp hserver
    obtain ⟨htouch, _⟩ := targetPort_spec hport
    obtain ⟨hsilent, haccount⟩ := touched_account htouch
    have haccount : w1.names.account x = w.names.account x := haccount
    rcases hrest with ⟨rfl, rfl⟩ | ⟨n, lport, rfl, hlistener, hmade⟩
    · obtain ⟨rfl, hright⟩ := targetPort_none hport
      exact .refused ((Says.message ..).grows hsilent) haccount (.unavailable _ hidle hright)
    · have hw1 : w1.names.Wf := touched_wf (w := w.log _) htouch hw
      have hsaid : Says env x w [.asked grokCreateServer length (buffer.getD [])] w1 :=
        (Says.message ..).grows hsilent
      have hsock : x ≠ os.socket :=
        hw.ne_unused hl (hos.socket.resolve_left (listener_socket hlistener))
      rcases hmade with ⟨rfl, rfl⟩ | ⟨hzero, rfl⟩
      · refine ⟨[.refused internalServerError], ?_, ?_⟩
        · have hgone : Grows (Action.Silent x) (FStreamer.sendError env x internalServerError
              (w1.created x os.socket n 0)) ((FStreamer.sendError env x internalServerError
              (w1.created x os.socket n 0)).deleted w1.nextProxy { socket := os.socket } []) :=
            .deleted _ _ [] nofun fun he => absurd he.symm hsock
          exact ((hsaid.grows (created_silent ..)).trans (.send ..)).grows hgone
        · rw [discarded_account hw1, haccount]
          exact .failed _ _ hidle
      · refine ⟨[.told grokCreateServer (ByteBuffer.encode 2 lport.toNat)], ?_, ?_⟩
        · exact (hsaid.grows (created_silent ..)).trans (.send ..)
        · rw [FStreamer.send_registry, created_account, haccount]
          exact .created _ _ lport hidle hzero

/-! ### Messages for clients -/

/-- How a GROK_PACKET frame that is handled ends. -/
theorem packet_spec {buffer : Option Bytes} (h : packet env x length { buffer } w = .ok w') :
    hasServer w x = false ∧ w' = FStreamer.sendError env x noSession w ∨
    hasServer w x = true ∧ (length ≤ cIdSize ∧ w' = FStreamer.sendError env x tooShortBuffer w ∨
      cIdSize < length ∧ ∃ bytes u p px, buffer = some bytes ∧ w.names.user x = some u ∧
        u.server = some p ∧ w.proxies.lookup p = some px ∧
        (px.idToSock.lookup (addressed bytes) = none ∧
            w' = FStreamer.sendError env x noSuchClient w ∨
          ∃ y body, px.idToSock.lookup (addressed bytes) = some y ∧ w' = Loop.send y body w)) := by
  unfold packet at h
  split at h
  · next hserver =>
    cases h
    exact .inl ⟨by simpa using hserver, rfl⟩
  · next hserver =>
    refine .inr ⟨by simpa using hserver, ?_⟩
    split at h
    · next hshort =>
      cases h
      exact .inl ⟨hshort, rfl⟩
    · next hlong =>
      refine .inr ⟨Nat.lt_of_not_le hlong, ?_⟩
      obtain ⟨⟨clientId, reader⟩, hread, h⟩ := Except.bind_ok_iff.mp h
      obtain ⟨bytes, rfl, hlen, rfl, hreader, hid⟩ := read_id hread
      obtain ⟨p, hp, h⟩ := Except.bind_ok_iff.mp h
      obtain ⟨u, hu, hs⟩ := server_ok hp
      obtain ⟨px, hpx, h⟩ := Except.bind_ok_iff.mp h
      have hpx := proxy_ok hpx
      refine ⟨bytes, u, p, px, rfl, hu, hs, hpx, ?_⟩
      split at h
      · next hno =>
        cases h
        exact .inl ⟨by simpa [GrokProxy.hasClient, addressed] using hno, rfl⟩
      · next hclient =>
        obtain ⟨body, _, h⟩ := Except.bind_ok_iff.mp h
        unfold GrokProxy.redirectPacket at h
        obtain ⟨px', hpx', h⟩ := Except.bind_ok_iff.mp h
        rw [Option.some.inj ((proxy_ok hpx').symm.trans hpx)] at h
        obtain ⟨y, hy⟩ : ∃ y, px.idToSock.lookup (addressed bytes) = some y :=
          Option.ne_none_iff_exists'.mp (by simpa [GrokProxy.hasClient, addressed] using hclient)
        have hy' : px.idToSock.lookup (UInt32.ofNat (ByteBuffer.value (bytes.take cIdSize))) =
          some y := hy
        rw [hy'] at h
        cases h
        exact .inr ⟨y, body, hy, rfl⟩

/-- How a GROK_DISCONNECT frame that is handled ends. -/
theorem disconnect_spec {buffer : Option Bytes} (h : disconnect env x length { buffer } w = .ok w') :
    hasServer w x = false ∧ w' = FStreamer.sendError env x noSession w ∨
    hasServer w x = true ∧ (length ≠ cIdSize ∧ w' = FStreamer.sendError env x bufferSizeIncorrect w ∨
      length = cIdSize ∧ ∃ bytes u p px, buffer = some bytes ∧ w.names.user x = some u ∧
        u.server = some p ∧ w.proxies.lookup p = some px ∧
        (px.idToSock.lookup (addressed bytes) = none ∧
            w' = FStreamer.sendError env x noSuchClient w ∨
          ∃ y, px.idToSock.lookup (addressed bytes) = some y ∧
            Loop.forceDisconnect env y true false (w.untabled y p px (addressed bytes)) = .ok w')) := by
  unfold disconnect at h
  split at h
  · next hserver =>
    cases h
    exact .inl ⟨by simpa using hserver, rfl⟩
  · next hserver =>
    refine .inr ⟨by simpa using hserver, ?_⟩
    split at h
    · next hlength =>
      cases h
      exact .inl ⟨hlength, rfl⟩
    · next hlength =>
      refine .inr ⟨not_not.mp hlength, ?_⟩
      obtain ⟨⟨clientId, reader⟩, hread, h⟩ := Except.bind_ok_iff.mp h
      obtain ⟨bytes, rfl, hlen, rfl, hreader, hid⟩ := read_id hread
      obtain ⟨p, hp, h⟩ := Except.bind_ok_iff.mp h
      obtain ⟨u, hu, hs⟩ := server_ok hp
      obtain ⟨px, hpx, h⟩ := Except.bind_ok_iff.mp h
      have hpx := proxy_ok hpx
      refine ⟨bytes, u, p, px, rfl, hu, hs, hpx, ?_⟩
      split at h
      · next hno =>
        cases h
        exact .inl ⟨by simpa [GrokProxy.hasClient, addressed] using hno, rfl⟩
      · next hclient =>
        obtain ⟨y, hy⟩ : ∃ y, px.idToSock.lookup (addressed bytes) = some y :=
          Option.ne_none_iff_exists'.mp (by simpa [GrokProxy.hasClient, addressed] using hclient)
        have h : GrokProxy.disconnectClient env p (addressed bytes) w = .ok w' := h
        rw [disconnectClient_eq hpx hy] at h
        exact .inr ⟨y, hy, h⟩

/-- A message for a client is for one that its owner has, or is refused. -/
theorem noSuchClient_exchange {type : UInt8} {bytes : Bytes} {u : User} {p : Ptr} {px : GrokProxy}
    (htype : ForClient type length) (hu : w.names.user x = some u) (hs : u.server = some p)
    (hp : w.proxies.lookup p = some px) (hno : px.idToSock.lookup (addressed bytes) = none) :
    Exchanged env x w (.asked type length bytes) (FStreamer.sendError env x noSuchClient
      (w.log (.message x type length (some bytes)))) := by
  have hstanding := Names.standing_serving hu hs (World.proxy_names hp).1
  refine .refused (.message x type length (some bytes) w) rfl
    (.noSuchClient type length bytes _ _ htype hstanding ?_)
  show ¬(px.idToSock.lookup (addressed bytes)).isSome = true
  rw [hno]
  exact Bool.false_ne_true

theorem packet_exchange (hw : w.names.Wf) (hx : x ≠ -1) (hl : w.names.linked x = some .freeGrok)
    {buffer : Option Bytes}
    (h : packet env x length { buffer } (w.log (.message x grokPacket length buffer)) = .ok w') :
    Exchanged env x w (.asked grokPacket length (buffer.getD [])) w' := by
  have hbusy (h : hasServer (w.log (.message x grokPacket length buffer)) x = true) :
      w.names.standing x ≠ .idle := by
    intro hidle
    have hno : hasServer (w.log (.message x grokPacket length buffer)) x = false :=
      standing_iff.mpr hidle
    rw [hno] at h
    cases h
  rcases packet_spec h with ⟨hserver, rfl⟩ | ⟨hserver, ⟨hshort, rfl⟩ |
    ⟨hlong, bytes, u, p, px, rfl, hu, hs, hp, ⟨hno, rfl⟩ | ⟨y, body, hy, rfl⟩⟩⟩
  · exact .refused (.message ..) rfl (.noSession _ _ _ (.inl rfl) (standing_iff.mp hserver))
  · exact .refused (.message ..) rfl (.tooShort _ _ (hbusy hserver) hshort)
  · exact noSuchClient_exchange (.inl ⟨rfl, hlong⟩) hu hs hp hno
  · have hstanding := Names.standing_serving hu hs (World.proxy_names hp).1
    have hyx : x ≠ y := hw.client_ne (World.proxy_names hp).1 hy hx hl
    refine ⟨[], ?_, ?_⟩
    · exact (Says.message x grokPacket length (some bytes) w).grows
        (.send body fun he => absurd he.symm hyx)
    · rw [Loop.send_registry]
      refine .delivered length bytes _ _ hlong hstanding ?_
      show (px.idToSock.lookup (addressed bytes)).isSome = true
      rw [hy]
      rfl

/-- A client that is out of the tables is closed, if the loop still knows it. -/
theorem forceDisconnect_spec {y : SockT} (hunobserved : w.names.observer y = none)
    (h : Loop.forceDisconnect env y true false w = .ok w') :
    (∃ o b, w.names.base o = some b ∧ w' = w.left y o b) ∨ w' = w := by
  have h : Loop.forceDisconnectAt env (3 + 1) y true false w = .ok w' := h
  cases hl : w.linkedClients.lookup y with
  | some o =>
    obtain ⟨b, hb, rfl⟩ := forceDisconnect_left hl h
    exact .inl ⟨o, b, hb, rfl⟩
  | none =>
    exact .inr (Except.ok.inj ((forceDisconnect_unknown _ _ hl hunobserved).symm.trans h)).symm

/-- The owner's tunnel when a client is taken out of it. -/
theorem untabled_account {u : User} {p : Ptr} {px : GrokProxy} {id : CIdT} {y : SockT}
    (hu : w.names.user x = some u) (hs : u.server = some p) (hp : w.proxies.lookup p = some px)
    (huser : w'.names.user = w.names.user)
    (htunnel : w'.names.tunnel = (w.untabled y p px id).names.tunnel) :
    w'.names.account x = { w.names.account x with
      standing := .serving px.listeningPort ({j | (px.idToSock.lookup j).isSome} \ {id}) } := by
  have ht : w'.names.tunnel p = some { px.toTunnel with
      sockToId := px.sockToId.erase y
      idToSock := px.idToSock.erase id } := by
    rw [htunnel, World.names_untabled w y hp]
    exact Function.update_self ..
  refine Names.account_serving (congrFun huser x) hu hs ht fun j => ?_
  rw [Table.lookup_erase_ite]
  by_cases hj : j = id <;> simp [hj]

/-- The owner has a client closed. -/
theorem dismissed_exchange {u : User} {p : Ptr} {px : GrokProxy} {bytes : Bytes} {y : SockT}
    (hu : w.names.user x = some u) (hs : u.server = some p) (hp : w.proxies.lookup p = some px)
    (hy : px.idToSock.lookup (addressed bytes) = some y)
    (hsaid : Says env x w [.asked grokDisconnect cIdSize bytes] w')
    (huser : w'.names.user = w.names.user)
    (htunnel : w'.names.tunnel = (w.untabled y p px (addressed bytes)).names.tunnel) :
    Exchanged env x w (.asked grokDisconnect cIdSize bytes) w' := by
  have hstanding := Names.standing_serving hu hs (World.proxy_names hp).1
  refine ⟨[], hsaid, ?_⟩
  rw [untabled_account hu hs hp huser htunnel]
  refine .dismissed bytes _ _ hstanding ?_
  show (px.idToSock.lookup (addressed bytes)).isSome = true
  rw [hy]
  rfl

theorem disconnect_exchange (hw : w.names.Wf) (hx : x ≠ -1) (hl : w.names.linked x = some .freeGrok)
    {buffer : Option Bytes}
    (h : disconnect env x length { buffer } (w.log (.message x grokDisconnect length buffer)) =
      .ok w') : Exchanged env x w (.asked grokDisconnect length (buffer.getD [])) w' := by
  have hbusy (h : hasServer (w.log (.message x grokDisconnect length buffer)) x = true) :
      w.names.standing x ≠ .idle := by
    intro hidle
    have hno : hasServer (w.log (.message x grokDisconnect length buffer)) x = false :=
      standing_iff.mpr hidle
    rw [hno] at h
    cases h
  rcases disconnect_spec h with ⟨hserver, rfl⟩ | ⟨hserver, ⟨hlength, rfl⟩ |
    ⟨rfl, bytes, u, p, px, rfl, hu, hs, hp, ⟨hno, rfl⟩ | ⟨y, hy, hclose⟩⟩⟩
  · exact .refused (.message ..) rfl (.noSession _ _ _ (.inr rfl) (standing_iff.mp hserver))
  · exact .refused (.message ..) rfl (.wrongSize _ _ (hbusy hserver) hlength)
  · exact noSuchClient_exchange (.inr ⟨rfl, rfl⟩) hu hs hp hno
  · have hu : w.names.user x = some u := hu
    have hp : w.proxies.lookup p = some px := hp
    have ht : w.names.tunnel p = some px.toTunnel := (World.proxy_names hp).1
    have hyx : y ≠ x := (hw.client_ne ht hy hx hl).symm
    have hunobserved : w.names.observer y = none := by
      by_cases hne : y = -1
      · subst hne
        exact hw.observer_neg
      · exact hw.sock_unobserved ht (hw.id_sock ht hy hne) hne
    have hnames := World.names_untabled (w.log (.message x grokDisconnect cIdSize (some bytes))) y hp
      (addressed bytes)
    have hsaid : Says env x w [.asked grokDisconnect cIdSize bytes] ((w.log (.message x
        grokDisconnect cIdSize (some bytes))).untabled y p px (addressed bytes)) :=
      (Says.message x grokDisconnect cIdSize (some bytes) w).grows (.of_eq rfl)
    rcases forceDisconnect_spec (by rw [hnames]; exact hunobserved) hclose with ⟨o, b, hb, rfl⟩ | rfl
    · have hleft : Grows (Action.Silent x) _ (((w.log (.message x grokDisconnect cIdSize
          (some bytes))).untabled y p px (addressed bytes)).left y o b) :=
        .left o b fun he => absurd he hyx
      apply dismissed_exchange hu hs hp hy (hsaid.grows hleft)
      · rw [World.names_left _ y hb, hnames]
        rfl
      · rw [World.names_left _ y hb, hnames, World.names_untabled w y hp]
        rfl
    · apply dismissed_exchange hu hs hp hy hsaid
      · rw [hnames]
        rfl
      · rw [hnames, World.names_untabled w y hp]
        rfl

/-! ### GROK_AUTH -/

/-- How a GROK_AUTH frame that is handled ends. -/
theorem auth_spec {buffer : Option Bytes} (h : auth env x length { buffer } w = .ok w') :
    ¬(length = env.magic.length ∧ (buffer.getD []).take length = env.magic) ∧ w' = w ∨
    (length = env.magic.length ∧ (buffer.getD []).take length = env.magic) ∧ w' = w.granted x := by
  unfold auth at h
  split at h
  · next hlength =>
    cases h
    exact .inl ⟨fun hyes => hlength hyes.1, rfl⟩
  · next hlength =>
    have hlength : length = env.magic.length := not_not.mp hlength
    subst hlength
    obtain ⟨same, hsame, h⟩ := Except.bind_ok_iff.mp h
    have hsame := memcmpMagic_spec hsame
    split at h
    · next hyes =>
      cases h
      exact .inr ⟨⟨rfl, hsame.mp hyes⟩, rfl⟩
    · next hno =>
      cases h
      exact .inl ⟨fun hyes => hno (hsame.mpr hyes.2), rfl⟩

/-- The right to choose is given to whom the magic is sent by. -/
theorem granted_account : (w.granted x).names.account x = { w.names.account x with chooses := true } := by
  have hnames := World.names_granted w x
  have huser : (w.granted x).names.user x = some (((w.names.user x).getD {}).grant .all) := by
    rw [hnames]
    exact Function.update_self ..
  have hstanding : (w.granted x).names.standing x = w.names.standing x := by
    unfold Names.standing
    rw [huser, hnames]
    cases w.names.user x <;> rfl
  unfold Names.account
  rw [huser, hstanding]
  rfl

theorem auth_exchange {buffer : Option Bytes}
    (h : auth env x length { buffer } (w.log (.message x grokAuth length buffer)) = .ok w') :
    Exchanged env x w (.asked grokAuth length (buffer.getD [])) w' := by
  have hsaid : Says env x w [.asked grokAuth length (buffer.getD [])] _ := .message ..
  have he : Exchange env.serverName env.magic (w.names.account x)
      [.asked grokAuth length (buffer.getD [])] _ := .auth length (buffer.getD [])
  rcases auth_spec h with ⟨hmagic, rfl⟩ | ⟨hmagic, rfl⟩
  · have hno : (decide (length = env.magic.length) &&
        decide ((buffer.getD []).take length = env.magic)) = false := by
      simpa using hmagic
    rw [hno, Bool.or_false] at he
    exact ⟨[], hsaid, he⟩
  · have hyes : (decide (length = env.magic.length) &&
        decide ((buffer.getD []).take length = env.magic)) = true := by
      simpa using hmagic
    rw [hyes, Bool.or_true] at he
    refine ⟨[], ?_, ?_⟩
    · exact hsaid.grows (.of_eq (gatherUser_trace ..))
    · rw [granted_account]
      exact he

/-! ### Any message -/

/-- **The server's answer to a message is one that the protocol allows.** -/
theorem processMessage_exchange {type : UInt8} {buffer : Option Bytes} (hw : w.names.Wf)
    (hx : x ≠ -1) (hos : os.Fresh w.toRegistry) (hl : w.names.linked x = some .freeGrok)
    (h : processMessage env os type length x buffer w = .ok w') :
    Exchanged env x w (.asked type length (buffer.getD [])) w' := by
  unfold processMessage at h
  dsimp only at h
  split at h
  · next htype =>
    subst htype
    cases h
    refine ⟨[.told grokPing env.serverName], ?_, ?_⟩
    · exact (Says.message ..).trans (.send ..)
    · rw [FStreamer.send_registry]
      exact .ping length _
  · next hping =>
    split at h
    · next htype =>
      subst htype
      exact createServer_exchange hw hos hl h
    · next hcreate =>
      split at h
      · next htype =>
        subst htype
        exact packet_exchange hw hx hl h
      · next hpacket =>
        split at h
        · next htype =>
          subst htype
          exact disconnect_exchange hw hx hl h
        · next hdisconnect =>
          split at h
          · next htype =>
            subst htype
            exact auth_exchange h
          · next hauth =>
            split at h
            · next htype =>
              subst htype
              cases h
              exact .refused (.message ..) rfl (.stat _ _)
            · next hstat =>
              cases h
              refine .refused (.message ..) rfl (.unknown _ _ _ ?_)
              simp [commandTypes, hping, hcreate, hpacket, hdisconnect, hauth, hstat]

end FreeGrok

end

end OpenGrok
