import Mathlib.Logic.Function.Basic
import OpenGrok.Loop.Run

/-! Who is who, as functions.

`Names` is what the tables of a registry say, without how they are stored: who owns a
descriptor, who a client is linked to, what a user and a tunnel are. `Registry.names`
reads it off, and every update of the code is an update of these functions
(`names_setObserver`, `names_setProxy` and the lemmas after them).

`Names.Wf` holds whatever the system calls answer and whatever order the events come
in. A failed `accept` is linked like a client, under -1, so most of it says nothing
about -1; a proxy may hold a socket that no one is linked to, because `on_connect` is
also called where nothing links what it returns; and a user may point to a proxy that
was deleted, though no proxy that exists has an owner that does not know it. -/
namespace OpenGrok

structure Names where
  opened : SockT → Option Nat
  observer : SockT → Option ObserverPtr
  linked : SockT → Option ObserverPtr
  user : SockT → Option User
  parser : SockT → Option StreamingParser
  base : ObserverPtr → Option IObserver
  tunnel : Ptr → Option Tunnel
  nextProxy : Ptr

namespace Registry

/-- The `IObserver` part of an observer that exists. -/
def base (r : Registry) : ObserverPtr → Option IObserver
  | .freeGrok => some r.freeGrok
  | .httpInterface => some r.http.toIObserver
  | .grokProxy p => (r.proxies.lookup p).map GrokProxy.toIObserver

def names (r : Registry) : Names where
  opened x := r.openSocks.lookup x
  observer x := r.observers.lookup x
  linked x := r.linkedClients.lookup x
  user x := r.users.lookup x
  parser x := r.http.parsers.lookup x
  base := r.base
  tunnel p := (r.proxies.lookup p).map GrokProxy.toTunnel
  nextProxy := r.nextProxy

/-! ### Updates of a registry are updates of its names -/

theorem base_setObserver {r : Registry} {o : ObserverPtr} {b : IObserver} (hb : r.base o = some b)
    (b' : IObserver) : (r.setObserver o b').base = Function.update r.base o (some b') := by
  funext o'
  rw [Function.update_apply]
  cases o with
  | freeGrok => cases o' <;> simp [base, setObserver]
  | httpInterface => cases o' <;> simp [base, setObserver]
  | grokProxy p =>
    cases hp : r.proxies.lookup p with
    | none => simp [base, hp] at hb
    | some px =>
      cases o' with
      | freeGrok => simp [base, setObserver, hp, setProxy]
      | httpInterface => simp [base, setObserver, hp, setProxy]
      | grokProxy q => by_cases hq : q = p <;> simp [base, setObserver, hp, setProxy, hq]

theorem names_setObserver {r : Registry} {o : ObserverPtr} {b : IObserver} (hb : r.base o = some b)
    (b' : IObserver) :
    (r.setObserver o b').names = { r.names with base := Function.update r.base o (some b') } := by
  rw [← base_setObserver hb]
  cases o with
  | freeGrok => rfl
  | httpInterface => rfl
  | grokProxy p =>
    cases hp : r.proxies.lookup p with
    | none => simp [base, hp] at hb
    | some px =>
      simp only [names, setObserver, hp, setProxy, Table.lookup_insert_ite, Names.mk.injEq, true_and,
        and_true]
      funext q
      by_cases hq : q = p
      · subst hq
        simp [hp]
      · simp [hq]

theorem names_setProxy (r : Registry) (p : Ptr) (px : GrokProxy) :
    (r.setProxy p px).names = { r.names with
      base := Function.update r.base (.grokProxy p) (some px.toIObserver)
      tunnel := Function.update r.names.tunnel p (some px.toTunnel) } := by
  have hb : (r.setProxy p px).base =
      Function.update r.base (.grokProxy p) (some px.toIObserver) := by
    funext o
    rw [Function.update_apply]
    cases o with
    | freeGrok => simp [base, setProxy]
    | httpInterface => simp [base, setProxy]
    | grokProxy q => by_cases hq : q = p <;> simp [base, setProxy, hq]
  rw [← hb]
  simp only [names, setProxy, Table.lookup_insert_ite, Names.mk.injEq, true_and, and_true]
  funext q
  rw [Function.update_apply]
  split <;> rfl

end Registry

/-! ### Well-formed names -/

structure Names.Wf (n : Names) : Prop where
  open_nonneg : ∀ {x c}, n.opened x = some c → 0 ≤ x
  closed : ∀ {x}, x ≠ -1 → n.opened x = none → n.linked x = none
  observer_open : ∀ {x o}, n.observer x = some o → n.opened x ≠ none
  observer_unlinked : ∀ {x o}, n.observer x = some o → n.linked x = none
  observer_base : ∀ {x o}, n.observer x = some o →
    ∃ b, n.base o = some b ∧ b.socket = x ∧ b.isServer = true
  linked_base : ∀ {x o}, n.linked x = some o → ∃ b, n.base o = some b ∧ x ∈ b.clients
  clients_linked : ∀ {x o b}, n.base o = some b → x ∈ b.clients → x ≠ -1 → n.linked x = some o
  parser_u64 : ∀ {x ps}, n.parser x = some ps → ps.u64 = x
  base_tunnel : ∀ {p b}, n.base (.grokProxy p) = some b → n.tunnel p ≠ none
  tunnel_observed : ∀ {p t}, n.tunnel p = some t →
    ∃ b, n.base (.grokProxy p) = some b ∧ n.observer b.socket = some (.grokProxy p)
  id_sock : ∀ {p t x id}, n.tunnel p = some t → t.idToSock.lookup id = some x → x ≠ -1 →
    t.sockToId.lookup x = some id
  sock_open : ∀ {p t x id}, n.tunnel p = some t → t.sockToId.lookup x = some id → x ≠ -1 →
    n.opened x ≠ none
  sock_unobserved : ∀ {p t x id}, n.tunnel p = some t → t.sockToId.lookup x = some id → x ≠ -1 →
    n.observer x = none
  sock_linked : ∀ {p t x id o}, n.tunnel p = some t → t.sockToId.lookup x = some id → x ≠ -1 →
    n.linked x = some o → o = .grokProxy p
  sock_one : ∀ {p q t u x i j}, n.tunnel p = some t → n.tunnel q = some u →
    t.sockToId.lookup x = some i → u.sockToId.lookup x = some j → x ≠ -1 → p = q
  owner : ∀ {p t}, n.tunnel p = some t → ∃ u, n.user t.initiator = some u ∧ u.server = some p
  server_linked : ∀ {x u p}, n.user x = some u → u.server = some p → n.linked x = some .freeGrok
  server_valid : ∀ {x u p}, n.user x = some u → u.server = some p → x ≠ -1
  server_lt : ∀ {x u p}, n.user x = some u → u.server = some p → p < n.nextProxy
  server_initiator : ∀ {x u p t}, n.user x = some u → u.server = some p → n.tunnel p = some t →
    t.initiator = x
  open_int : ∀ {x}, n.opened x ≠ none → n.observer x = none → x < 2 ^ 31

namespace Names.Wf
variable {n : Names}

section
variable (h : n.Wf)
include h

theorem open_neg : n.opened (-1) = none := by
  cases hx : n.opened (-1) with
  | none => rfl
  | some c => exact absurd (h.open_nonneg hx) (by decide)

theorem observer_neg : n.observer (-1) = none := by
  cases hx : n.observer (-1) with
  | none => rfl
  | some o => exact absurd h.open_neg (h.observer_open hx)

theorem unobserved {x : SockT} (hx : n.opened x = none) : n.observer x = none := by
  cases ho : n.observer x with
  | none => rfl
  | some o => exact absurd hx (h.observer_open ho)

theorem untabled {x : SockT} {p : Ptr} {t : Tunnel} (hne : x ≠ -1) (hx : n.opened x = none)
    (ht : n.tunnel p = some t) : t.sockToId.lookup x = none := by
  cases hl : t.sockToId.lookup x with
  | none => rfl
  | some id => exact absurd hx (h.sock_open ht hl hne)

theorem tunnel_lt {p : Ptr} {t : Tunnel} (ht : n.tunnel p = some t) : p < n.nextProxy := by
  obtain ⟨u, hu, hs⟩ := h.owner ht
  exact h.server_lt hu hs

theorem base_fresh : n.base (.grokProxy n.nextProxy) = none := by
  cases hb : n.base (.grokProxy n.nextProxy) with
  | none => rfl
  | some b =>
    obtain ⟨t, ht⟩ := Option.ne_none_iff_exists'.mp (h.base_tunnel hb)
    exact absurd (h.tunnel_lt ht) (Nat.lt_irrefl _)

end

theorem boot (l : Listeners) : (World.boot l).names.Wf := by
  have h1 := l.freeGrok_nonneg
  have h2 := l.http_nonneg
  have h3 := l.distinct
  constructor <;>
    simp only [World.boot, Registry.names, Table.lookup_insert_ite, AList.lookup_empty,
      Option.map_none]
  case observer_base =>
    intro x o ho
    split at ho
    · cases ho
      exact ⟨_, rfl, by simp_all, rfl⟩
    · split at ho
      · cases ho
        exact ⟨_, rfl, by simp_all, rfl⟩
      · cases ho
  case clients_linked =>
    intro x o b hb hx
    cases o <;> simp [Registry.base] at hb <;> subst hb <;> simp at hx
  case base_tunnel =>
    intro p b hb
    simp [Registry.base] at hb
  all_goals grind

/-! ### What keeps names well formed -/

/-- The kernel gives a descriptor. -/
theorem open_sock (h : n.Wf) {fd : SockT} (h0 : 0 ≤ fd) (hint : fd < 2 ^ 31) (c : Nat) :
    Wf { n with opened := Function.update n.opened fd (some c) } := by
  obtain ⟨h1, h2, h3, h4, h5, h6, h7, h8, h9, h10, h11, h12, h13, h14, h15, h16, h17, h18, h19,
    h20, h21⟩ := h
  refine ⟨?_, ?_, ?_, h4, h5, h6, h7, h8, h9, h10, h11, ?_, h13, h14, h15, h16, h17, h18, h19,
    h20, ?_⟩ <;>
    simp only [Function.update_apply] <;> grind

/-- A client is linked to an observer. -/
theorem link (h : n.Wf) {fd : SockT} {o : ObserverPtr} {b : IObserver} (hb : n.base o = some b)
    (hfd : fd ≠ -1 → n.opened fd ≠ none ∧ n.linked fd = none ∧ n.observer fd = none ∧
      ∀ p t id, n.tunnel p = some t → t.sockToId.lookup fd = some id → o = .grokProxy p) :
    Wf { n with
      linked := Function.update n.linked fd (some o)
      base := Function.update n.base o (some { b with clients := b.clients.insert fd () }) } := by
  have hneg := h.observer_neg
  obtain ⟨h1, h2, h3, h4, h5, h6, h7, h8, h9, h10, h11, h12, h13, h14, h15, h16, h17, h18, h19,
    h20, h21⟩ := h
  refine ⟨h1, ?_, h3, ?_, ?_, ?_, ?_, h8, ?_, ?_, h11, h12, h13, ?_, h15, h16, ?_, h18, h19,
    h20, h21⟩ <;>
    simp only [Function.update_apply] <;> grind [AList.mem_insert]

/-- A client leaves the observer it is linked to and is closed. -/
theorem leave (h : n.Wf) {fd : SockT} {o : ObserverPtr} {b : IObserver} (hb : n.base o = some b)
    (hl : n.linked fd = some o) (hu : ∀ u, n.user fd = some u → u.server = none)
    (ht : ∀ p t, fd ≠ -1 → n.tunnel p = some t → t.sockToId.lookup fd = none) :
    Wf { n with
      opened := Function.update n.opened fd none
      linked := Function.update n.linked fd none
      base := Function.update n.base o (some { b with clients := b.clients.erase fd }) } := by
  have hneg := h.observer_neg
  have hneg' := h.open_neg
  obtain ⟨h1, h2, h3, h4, h5, h6, h7, h8, h9, h10, h11, h12, h13, h14, h15, h16, h17, h18, h19,
    h20, h21⟩ := h
  refine ⟨?_, ?_, ?_, ?_, ?_, ?_, ?_, h8, ?_, ?_, h11, ?_, h13, ?_, h15, h16, ?_, h18, h19,
    h20, ?_⟩ <;>
    simp only [Function.update_apply] <;> grind [AList.mem_erase]

/-- An observer changes in what no one else relies on. -/
theorem set_base (h : n.Wf) {o : ObserverPtr} {b b' : IObserver} (hb : n.base o = some b)
    (hc : b'.clients = b.clients) (hs : b'.socket = b.socket) (hi : b'.isServer = b.isServer) :
    Wf { n with base := Function.update n.base o (some b') } := by
  obtain ⟨h1, h2, h3, h4, h5, h6, h7, h8, h9, h10, h11, h12, h13, h14, h15, h16, h17, h18, h19,
    h20, h21⟩ := h
  refine ⟨h1, h2, h3, h4, ?_, ?_, ?_, h8, ?_, ?_, h11, h12, h13, h14, h15, h16, h17, h18, h19,
    h20, h21⟩ <;>
    simp only [Function.update_apply] <;> grind

/-- A parser is made, fed or thrown away. -/
theorem update_parsed (h : n.Wf) {fd : SockT} {parser : Option StreamingParser}
    (hp : ∀ ps, parser = some ps → ps.u64 = fd) :
    Wf { n with parser := Function.update n.parser fd parser } := by
  obtain ⟨h1, h2, h3, h4, h5, h6, h7, h8, h9, h10, h11, h12, h13, h14, h15, h16, h17, h18, h19,
    h20, h21⟩ := h
  refine ⟨h1, h2, h3, h4, h5, h6, h7, ?_, h9, h10, h11, h12, h13, h14, h15, h16, h17, h18, h19,
    h20, h21⟩
  simp only [Function.update_apply]
  grind

/-- A user's record changes, but not its server. -/
theorem set_user (h : n.Wf) {fd : SockT} {user : User}
    (hs : ∀ p, user.server = some p ↔ ∃ u, n.user fd = some u ∧ u.server = some p) :
    Wf { n with user := Function.update n.user fd (some user) } := by
  obtain ⟨h1, h2, h3, h4, h5, h6, h7, h8, h9, h10, h11, h12, h13, h14, h15, h16, h17, h18, h19,
    h20, h21⟩ := h
  refine ⟨h1, h2, h3, h4, h5, h6, h7, h8, h9, h10, h11, h12, h13, h14, h15, ?_, ?_, ?_, ?_,
    ?_, h21⟩ <;>
    simp only [Function.update_apply] <;> grind

/-- The record of a user that owns no proxy is removed. -/
theorem remove_user (h : n.Wf) {fd : SockT}
    (hno : ∀ p t, n.tunnel p = some t → t.initiator ≠ fd) :
    Wf { n with user := Function.update n.user fd none } := by
  obtain ⟨h1, h2, h3, h4, h5, h6, h7, h8, h9, h10, h11, h12, h13, h14, h15, h16, h17, h18, h19,
    h20, h21⟩ := h
  refine ⟨h1, h2, h3, h4, h5, h6, h7, h8, h9, h10, h11, h12, h13, h14, h15, ?_, ?_, ?_, ?_,
    ?_, h21⟩ <;>
    simp only [Function.update_apply] <;> grind

/-- A proxy takes a client into its tables. -/
theorem table (h : n.Wf) {p : Ptr} {t : Tunnel} {fd : SockT} (id : CIdT)
    (ht : n.tunnel p = some t)
    (hfd : fd ≠ -1 → n.opened fd ≠ none ∧ n.linked fd = none ∧ n.observer fd = none ∧
      ∀ q u, n.tunnel q = some u → u.sockToId.lookup fd = none) :
    Wf { n with tunnel := Function.update n.tunnel p (some { t with
      sockToId := t.sockToId.insert fd id
      idToSock := t.idToSock.insert id fd }) } := by
  obtain ⟨h1, h2, h3, h4, h5, h6, h7, h8, h9, h10, h11, h12, h13, h14, h15, h16, h17, h18, h19,
    h20, h21⟩ := h
  refine ⟨h1, h2, h3, h4, h5, h6, h7, h8, ?_, ?_, ?_, ?_, ?_, ?_, ?_, ?_, h17, h18, h19, ?_, h21⟩ <;>
    simp only [Function.update_apply] <;> grind [Table.lookup_insert_ite]

/-- The tables of the proxies lose entries. -/
theorem untable (h : n.Wf) {tunnel : Ptr → Option Tunnel}
    (hdom : ∀ p, tunnel p = none → n.tunnel p = none)
    (hsub : ∀ p t', tunnel p = some t' → ∃ t, n.tunnel p = some t ∧ t'.initiator = t.initiator ∧
      (∀ x id, t'.sockToId.lookup x = some id → t.sockToId.lookup x = some id) ∧
      ∀ x id, t'.idToSock.lookup id = some x → x ≠ -1 → t'.sockToId.lookup x = some id) :
    Wf { n with tunnel := tunnel } := by
  refine { h with
    base_tunnel := fun hb ht => h.base_tunnel hb (hdom _ ht)
    tunnel_observed := ?_, id_sock := ?_, sock_open := ?_, sock_unobserved := ?_
    sock_linked := ?_, sock_one := ?_, owner := ?_, server_initiator := ?_ }
  · intro p t' ht'
    obtain ⟨t, ht, -⟩ := hsub p t' ht'
    exact h.tunnel_observed ht
  · intro p t' x id ht'
    obtain ⟨-, -, -, -, hid⟩ := hsub p t' ht'
    exact hid x id
  · intro p t' x id ht' hx
    obtain ⟨t, ht, -, hs, -⟩ := hsub p t' ht'
    exact h.sock_open ht (hs x id hx)
  · intro p t' x id ht' hx
    obtain ⟨t, ht, -, hs, -⟩ := hsub p t' ht'
    exact h.sock_unobserved ht (hs x id hx)
  · intro p t' x id o ht' hx
    obtain ⟨t, ht, -, hs, -⟩ := hsub p t' ht'
    exact h.sock_linked ht (hs x id hx)
  · intro p q t' u' x i j ht' hu' hi hj
    obtain ⟨t, ht, -, hst, -⟩ := hsub p t' ht'
    obtain ⟨u, hu, -, hsu, -⟩ := hsub q u' hu'
    exact h.sock_one ht hu (hst x i hi) (hsu x j hj)
  · intro p t' ht'
    obtain ⟨t, ht, hi, -⟩ := hsub p t' ht'
    rw [hi]
    exact h.owner ht
  · intro x u p t' hu hs ht'
    obtain ⟨t, ht, hi, -⟩ := hsub p t' ht'
    rw [hi]
    exact h.server_initiator hu hs ht

/-- A main connection that has no server gets a proxy, listening on a new descriptor. -/
theorem create (h : n.Wf) {fd sock : SockT} {b : IObserver} {t : Tunnel} {user : User} (c : Nat)
    (hl : n.linked fd = some .freeGrok) (hfd : fd ≠ -1)
    (hno : ∀ u, n.user fd = some u → u.server = none) (hserver : user.server = some n.nextProxy)
    (h0 : 0 ≤ sock) (hclosed : n.opened sock = none)
    (hb : b.clients = ∅ ∧ b.socket = sock ∧ b.isServer = true)
    (ht : t.initiator = fd ∧ t.idToSock = ∅ ∧ t.sockToId = ∅) :
    Wf { n with
      opened := Function.update n.opened sock (some c)
      observer := Function.update n.observer sock (some (.grokProxy n.nextProxy))
      user := Function.update n.user fd (some user)
      base := Function.update n.base (.grokProxy n.nextProxy) (some b)
      tunnel := Function.update n.tunnel n.nextProxy (some t)
      nextProxy := n.nextProxy + 1 } := by
  have hlt := fun p t => h.tunnel_lt (p := p) (t := t)
  have hfresh := h.base_fresh
  have hun := h.unobserved hclosed
  have hne : sock ≠ -1 := by
    intro hsame
    subst hsame
    exact absurd h0 (by decide)
  have htab := fun p t => h.untabled (p := p) (t := t) hne hclosed
  have hcl := h.closed hne hclosed
  obtain ⟨hb1, hb2, hb3⟩ := hb
  obtain ⟨ht1, ht2, ht3⟩ := ht
  have hids : ∀ id, t.idToSock.lookup id = none := fun id => by rw [ht2, AList.lookup_empty]
  have hsocks : ∀ x, t.sockToId.lookup x = none := fun x => by rw [ht3, AList.lookup_empty]
  clear ht2 ht3
  obtain ⟨h1, h2, h3, h4, h5, h6, h7, h8, h9, h10, h11, h12, h13, h14, h15, h16, h17, h18, h19,
    h20, h21⟩ := h
  refine ⟨?_, ?_, ?_, ?_, ?_, ?_, ?_, h8, ?_, ?_, ?_, ?_, ?_, ?_, ?_, ?_, ?_, ?_, ?_, ?_,
    ?_⟩ <;>
    simp only [Function.update_apply]
  case refine_14 =>
    intro q r t' u' x i j ht' hu' hi hj
    split at ht'
    · cases ht'
      rw [hsocks] at hi
      cases hi
    · split at hu'
      · cases hu'
        rw [hsocks] at hj
        cases hj
      · exact h15 ht' hu' hi hj
  all_goals grind [AList.notMem_empty]

/-- A proxy that has no clients left is deleted with its listener, and its owner's record
with it or not. -/
theorem delete (h : n.Wf) {p : Ptr} {t : Tunnel} {b : IObserver} {gone : SockT → Prop}
    [DecidablePred gone] {user : SockT → Option User}
    (ht : n.tunnel p = some t) (hb : n.base (.grokProxy p) = some b)
    (hgone : ∀ x, gone x ↔ x = b.socket ∨ x ∈ b.clients)
    (huser : ∀ x u, user x = some u → n.user x = some u)
    (howner : ∀ x, x ≠ t.initiator → user x = n.user x) :
    Wf { n with
      opened := fun x => if gone x then none else n.opened x
      observer := Function.update n.observer b.socket none
      linked := fun x => if x ∈ b.clients then none else n.linked x
      user := user
      base := Function.update n.base (.grokProxy p) none
      tunnel := Function.update n.tunnel p none } := by
  have hneg := h.observer_neg
  have hneg' := h.open_neg
  obtain ⟨h1, h2, h3, h4, h5, h6, h7, h8, h9, h10, h11, h12, h13, h14, h15, h16, h17, h18, h19,
    h20, h21⟩ := h
  refine ⟨?_, ?_, ?_, ?_, ?_, ?_, ?_, h8, ?_, ?_, ?_, ?_, ?_, ?_, ?_, ?_, ?_, ?_, ?_, ?_,
    ?_⟩ <;>
    simp only [Function.update_apply] <;> grind

end Names.Wf

end OpenGrok
