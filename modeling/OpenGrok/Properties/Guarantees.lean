import Mathlib.Data.List.TakeWhile
import OpenGrok.Properties.Owner

/-! What an owner may rely on.

Consequences of the protocol for the turns of a connection as a whole: no frame is
answered more than once, and clients are heard of only over the one tunnel that the
connection was given. -/
namespace OpenGrok

namespace Turn

/-- A frame of the server that answers a message, or refuses it. -/
def isReply : Turn → Bool
  | .told type _ => type = grokPing ∨ type = grokCreateServer ∨ type = grokError
  | .asked _ _ _ => false

/-- The frame that gives an owner its tunnel. -/
def opens : Turn → Bool
  | .told type _ => type = grokCreateServer
  | .asked _ _ _ => false

/-- A frame about a client. -/
def ofClient : Turn → Bool
  | .told type _ => type = grokConnected ∨ type = grokPacket ∨ type = grokDisconnect
  | .asked _ _ _ => false

end Turn

section
variable {name magic : Bytes} {a b : Account} {said turns turns' : List Turn}

/-! ### Replies -/

/-- An exchange has no more replies than there are frames that the parser found. -/
theorem Exchange.replies_le (h : Exchange name magic a said b) :
    said.countP Turn.isReply ≤ (said.flatMap Turn.reactions).length := by
  cases h with
  | garbled code hcode => rcases hcode with rfl | rfl <;> decide
  | connected _ _ id _ _ => simp [Turn.isReply, grokConnected, grokPing, grokCreateServer, grokError]
  | relayed _ _ id bytes _ _ _ =>
    simp [Turn.isReply, grokPacket, grokPing, grokCreateServer, grokError]
  | disconnected _ _ id _ _ =>
    simp [Turn.isReply, grokDisconnect, grokPing, grokCreateServer, grokError]
  | _ => simp [Turn.isReply, Turn.reactions, Turn.refused]

/-! ### The tunnel -/

/-- The turns before the tunnel. -/
def Turn.before (turns : List Turn) : List Turn := turns.takeWhile fun turn => !turn.opens

/-- What the turns so far say of the tunnel. -/
structure Tunnelled (turns : List Turn) (a : Account) : Prop where
  once : turns.countP Turn.opens ≤ 1
  idle : a.standing = .idle → turns.countP Turn.opens = 0
  serving : ∀ port ids, a.standing = .serving port ids → turns.countP Turn.opens = 1
  quiet : ∀ turn ∈ Turn.before turns, turn.ofClient = false

theorem Tunnelled.nil (h : a.standing = .idle) : Tunnelled [] a where
  once := Nat.zero_le _
  idle _ := rfl
  serving _ _ hs := nomatch h.symm.trans hs
  quiet := nofun

/-- Turns that open no tunnel, and are about a client only if there is one. -/
theorem Tunnelled.append (h : Tunnelled turns a) (hopens : said.countP Turn.opens = 0)
    (hclient : (∀ turn ∈ said, turn.ofClient = false) ∨ turns.countP Turn.opens = 1)
    (hidle : b.standing = .idle → a.standing = .idle)
    (hserving : ∀ port ids, b.standing = .serving port ids →
      ∃ port' ids', a.standing = .serving port' ids') : Tunnelled (turns ++ said) b := by
  have hcount : (turns ++ said).countP Turn.opens = turns.countP Turn.opens := by
    rw [List.countP_append, hopens, Nat.add_zero]
  refine ⟨hcount ▸ h.once, fun hb => hcount.trans (h.idle (hidle hb)), fun port ids hb => ?_,
    fun turn hturn => ?_⟩
  · obtain ⟨port', ids', ha⟩ := hserving port ids hb
    exact hcount.trans (h.serving port' ids' ha)
  · unfold Turn.before at hturn
    rw [List.takeWhile_append] at hturn
    split at hturn
    · next hlen =>
      have hall : Turn.before turns = turns := (List.takeWhile_prefix _).eq_of_length hlen
      rcases List.mem_append.mp hturn with hturn | hturn
      · exact h.quiet turn (hall.symm ▸ hturn)
      · rcases hclient with hquiet | hopened
        · exact hquiet turn (List.takeWhile_subset _ hturn)
        · have hone : 0 < turns.countP Turn.opens := by omega
          obtain ⟨opening, hmem, hopens⟩ := List.countP_pos_iff.mp hone
          have hno := List.mem_takeWhile_imp (hall.symm ▸ hmem)
          rw [hopens] at hno
          cases hno
    · exact h.quiet turn hturn

theorem Exchange.tunnelled (h : Exchange name magic a said b) (ht : Tunnelled turns a) :
    Tunnelled (turns ++ said) b := by
  have hserves {port : UInt16} {ids : Set CIdT} (hs : a.standing = .serving port ids)
      {ids' : Set CIdT} (hopens : said.countP Turn.opens = 0) :
      Tunnelled (turns ++ said) { a with standing := .serving port ids' } :=
    ht.append hopens (.inr (ht.serving port ids hs)) nofun fun _ _ _ => ⟨port, ids, hs⟩
  have hkept {a' : Account} (hs : a'.standing = a.standing) (hopens : said.countP Turn.opens = 0)
      (hquiet : ∀ turn ∈ said, turn.ofClient = false) : Tunnelled (turns ++ said) a' :=
    ht.append hopens (.inl hquiet) (fun h => hs ▸ h) fun port ids h => ⟨port, ids, hs ▸ h⟩
  have hcodes : grokError ≠ grokConnected ∧ grokError ≠ grokPacket ∧ grokError ≠ grokDisconnect ∧
      grokError ≠ grokCreateServer := by decide
  cases h with
  | created length payload port hidle hzero =>
    have hnone := ht.idle hidle
    refine ⟨?_, nofun, fun _ _ _ => ?_, ?_⟩
    · simp [hnone, Turn.opens]
    · simp [hnone, Turn.opens]
    · intro turn hturn
      unfold Turn.before at hturn
      rw [List.takeWhile_append] at hturn
      split at hturn
      · next hlen =>
        have hall : Turn.before turns = turns := (List.takeWhile_prefix _).eq_of_length hlen
        rcases List.mem_append.mp hturn with hturn | hturn
        · exact ht.quiet turn (hall.symm ▸ hturn)
        · obtain rfl : turn = .asked grokCreateServer length payload := by
            simpa [Turn.opens] using hturn
          rfl
      · exact ht.quiet turn hturn
  | failed length payload hidle =>
    refine ht.append ?_ (.inl ?_) nofun nofun
    · simp [Turn.refused, Turn.opens, hcodes]
    · simp [Turn.refused, Turn.ofClient, hcodes]
  | connected port ids id hs _ => exact hserves hs rfl
  | relayed port ids id bytes hs _ _ =>
    exact ht.append rfl (.inr (ht.serving port ids hs)) (fun h => h) fun port ids h => ⟨port, ids, h⟩
  | disconnected port ids id hs _ => exact hserves hs rfl
  | dismissed payload port ids hs _ => exact hserves hs rfl
  | ping length payload =>
    have hping : grokPing ≠ grokConnected ∧ grokPing ≠ grokPacket ∧ grokPing ≠ grokDisconnect := by
      decide
    exact hkept rfl rfl (by simp [Turn.ofClient, hping])
  | auth length payload => exact hkept rfl rfl (by simp [Turn.ofClient])
  | delivered length payload port ids _ _ _ => exact hkept rfl rfl (by simp [Turn.ofClient])
  | _ =>
    refine hkept rfl ?_ ?_
    · simp [Turn.refused, Turn.opens, hcodes]
    · simp [Turn.refused, Turn.ofClient, hcodes]

end

/-! ### Every run -/

section
variable {env : Env} {l : Listeners} {s : Loop.State}

/-- **No frame is answered twice**: in every run in which ids do not run out, a main connection has
been sent no more replies since it was accepted than there are frames in what was received from it. -/
theorem answered_once (h : ReachableIf env l Loop.IdsLeft s) (x : SockT) (hx : x ≠ -1)
    (hl : s.world.names.linked x = some .freeGrok) :
    (s.world.turns x).countP Turn.isReply ≤ (Frame.parse env.zstd (s.world.received x)).length := by
  obtain ⟨⟨chooses, hruns⟩, _⟩ := h.converses hx hl
  rw [← World.turns_parsed (h.parsed hx hl)]
  exact hruns.count_le fun _ _ _ he => he.replies_le

theorem answered_once_relaying :
    ∃ s, ReachableIf (.plain []) .plain Loop.IdsLeft s ∧ s.world.received 5 = [10, 0, 14] ∧
      (s.world.turns 5).length = 4 ∧
      (s.world.turns 5).countP Turn.isReply ≤ (Frame.parse (Env.plain []).zstd [10, 0, 14]).length := by
  obtain ⟨s, hs, hl, hreceived, hturns⟩ := ReachableIf.exists_of_run (.plain []) .plain Loop.IdsLeft
    relaying (fun s => s.world.linkedClients.lookup 5 = some .freeGrok ∧
      s.world.received 5 = [10, 0, 14] ∧ (s.world.turns 5).length = 4)
    (by decide +kernel) (by decide +kernel)
  exact ⟨s, hs, hreceived, hturns, hreceived ▸ answered_once hs 5 (by decide) hl⟩

/-- **An owner has one tunnel**, in every run in which ids do not run out: a main connection is given
no more than one since it was accepted, and hears of no client before. -/
theorem one_tunnel (h : ReachableIf env l Loop.IdsLeft s) (x : SockT) (hx : x ≠ -1)
    (hl : s.world.names.linked x = some .freeGrok) :
    (s.world.turns x).countP Turn.opens ≤ 1 ∧
    ∀ turn ∈ Turn.before (s.world.turns x), turn.ofClient = false := by
  obtain ⟨⟨chooses, hruns⟩, _⟩ := h.converses hx hl
  have ht : Tunnelled (s.world.turns x) (s.world.names.account x) :=
    hruns.along (Tunnelled.nil rfl) fun _ _ _ _ ht he => he.tunnelled ht
  exact ⟨ht.once, ht.quiet⟩

theorem one_tunnel_relaying :
    ∃ s, ReachableIf (.plain []) .plain Loop.IdsLeft s ∧
      (s.world.turns 5).countP Turn.ofClient = 2 ∧ (s.world.turns 5).countP Turn.opens ≤ 1 := by
  obtain ⟨s, hs, hl, hclients⟩ := ReachableIf.exists_of_run (.plain []) .plain Loop.IdsLeft
    relaying (fun s => s.world.linkedClients.lookup 5 = some .freeGrok ∧
      (s.world.turns 5).countP Turn.ofClient = 2) (by decide +kernel) (by decide +kernel)
  exact ⟨s, hs, hclients, (one_tunnel hs 5 (by decide) hl).1⟩

end

end OpenGrok
