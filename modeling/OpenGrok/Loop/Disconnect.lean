import OpenGrok.Server.Proxy
import OpenGrok.Server.Http

/-! Closing connections (loop.cpp, server.cpp).

`force_disconnect`, `on_disconnect` and `remove_observer` call one another: closing
an owner removes its proxy, which closes each of the proxy's clients. `depth` bounds
how far the model follows the nesting. -/
namespace OpenGrok

namespace FreeGrok

/-- `has_server`. -/
def hasServer (w : World) (fd : SockT) : Bool :=
  match w.users.lookup fd with
  | some user => user.server.isSome
  | none => false

/-- `gather_user`. -/
def gatherUser (fd : SockT) (w : World) : User × World :=
  match w.users.lookup fd with
  | some user => (user, w)
  | none => ({}, { w with users := w.users.insert fd {} })

def setUser (fd : SockT) (user : User) (w : World) : World :=
  { w with users := w.users.insert fd user }

def removeUser (fd : SockT) (w : World) : World :=
  { w with users := w.users.erase fd }

/-- `delete` on a proxy. -/
def deleteProxy (p : Ptr) (w : World) : Except Fault World := do
  let _ ← w.proxy p
  return { w with proxies := w.proxies.erase p }

end FreeGrok

namespace Loop
variable (env : Env)

/-- The loop of `remove_observer` over a server's clients, `close` being the call of
`force_disconnect`. -/
def closeAll (close : SockT → World → Except Fault World) :
    List SockT → World → Except Fault World
  | [], w => return w
  | client :: rest, w => do closeAll close rest (← close client w)

/-- `remove_observer`, with `close client` for `force_disconnect(client, false)`. -/
def removeObserverWith (close : SockT → World → Except Fault World) (o : ObserverPtr)
    (w : World) : Except Fault World := do
  let base ← w.observer o
  let w ← if base.isServer then do
      let w ← closeAll close (env.order base.clients.keys) w
      pure (w.setObserver o { base with clients := ∅ })
    else pure (removeQueues base.socket w)
  let w := { w with observers := w.observers.erase base.socket }
  return tcpClose base.socket w

end Loop

/-- `FreeGrok::on_disconnect`, with `remove` for `remove_observer`. -/
def FreeGrok.onDisconnectWith (env : Env) (remove : ObserverPtr → World → Except Fault World)
    (sock : SockT) (w : World) : Except Fault World :=
  if hasServer w sock then do
    match (gatherUser sock w).1.server with
    | none => return w
    | some serv =>
      let w ← GrokProxy.shutdown env serv w
      let w ← remove (.grokProxy serv) w
      let w ← deleteProxy serv w
      return removeUser sock w
  else return w

/-- `on_disconnect` of any observer. -/
def onDisconnectWith (env : Env) (remove : ObserverPtr → World → Except Fault World)
    (o : ObserverPtr) (sock : SockT) (w : World) : Except Fault World :=
  match o with
  | .freeGrok => FreeGrok.onDisconnectWith env remove sock w
  | .httpInterface => return HttpInterface.onDisconnect sock w
  | .grokProxy p => GrokProxy.onDisconnect env p sock w

namespace Loop
variable (env : Env)

/-- `force_disconnect`. -/
def forceDisconnectAt : Nat → SockT → Bool → Bool → World → Except Fault World
  | 0, _, _, _, _ => throw .nesting
  | depth + 1, client, erase, callOnDisconnect, w =>
    let close (client : SockT) := forceDisconnectAt depth client false false
    let remove := removeObserverWith env close
    match w.linkedClients.lookup client with
    | some o => do
      let w ← if callOnDisconnect then onDisconnectWith env remove o client w else pure w
      let w := removeQueues client w
      let w ← unlinkClient client o erase w
      let w := Selector.remove client w
      return tcpClose client w
    | none =>
      match w.observers.lookup client with
      | none => return w
      | some o => do
        let w ← onDisconnectWith env remove o client w
        remove o w

/-- How deep the model follows observers that remove one another. -/
def depth : Nat := 4

def forceDisconnect (client : SockT) (erase callOnDisconnect : Bool) (w : World) :
    Except Fault World :=
  forceDisconnectAt env depth client erase callOnDisconnect w

def removeObserver (o : ObserverPtr) (w : World) : Except Fault World :=
  removeObserverWith env (fun client => forceDisconnectAt env depth client false false) o w

/-- `on_disconnect`, as the loop calls it on an observer. -/
def onDisconnect (o : ObserverPtr) (sock : SockT) (w : World) : Except Fault World :=
  onDisconnectWith env (removeObserver env) o sock w

end Loop

/-- `GrokProxy::disconnect_client`. -/
def GrokProxy.disconnectClient (env : Env) (p : Ptr) (clientId : CIdT) (w : World) :
    Except Fault World := do
  let px ← w.proxy p
  match px.idToSock.lookup clientId with
  | none => return w
  | some clientFd =>
    let w ← unlinkClient p clientId clientFd true w
    Loop.forceDisconnect env clientFd true false w

end OpenGrok
