import TitleDock.Remote.Http

/-! A device that is nothing but a table of exchanges for the requests that it may receive. Those of
one request are used up in order, and the last one repeats; a request that is not in the table is
not found. -/

namespace TitleDock

structure CannedDevice where
  /-- Where it listens, if it does. -/
  address : Option SocketAddress
  /-- The exchanges by method and path. -/
  routes : List (String × List Exchange)
  /-- The requests that came in, last one first. -/
  seen : List HttpRequest

namespace HttpRequest

def line (r : HttpRequest) : String := r.method ++ " " ++ r.endpoint.path

end HttpRequest

namespace CannedDevice

def silent : CannedDevice := { address := none, routes := [], seen := [] }

def notFound : Exchange :=
  .replied { status := 404, length := some 0, body := [], ending := .complete }

def take (line : String) : List (String × List Exchange) → Exchange × List (String × List Exchange)
  | [] => (notFound, [])
  | (route, exchanges) :: rest =>
    if route = line then
      match exchanges with
      | x :: y :: more => (x, (route, y :: more) :: rest)
      | [x] => (x, (route, [x]) :: rest)
      | [] => (notFound, (route, []) :: rest)
    else
      let (x, rest) := take line rest
      (x, (route, exchanges) :: rest)

def exchange (d : CannedDevice) (r : HttpRequest) : Exchange × CannedDevice :=
  if d.address = some r.endpoint.address then
    let (x, routes) := take r.line d.routes
    (x, { d with routes, seen := r :: d.seen })
  else (.refused, d)

def answer (d : CannedDevice) (c : Call) : Answer × Option LogRecord × CannedDevice :=
  match c.request with
  | .error f => (c.failed f, none, d)
  | .ok r =>
    let (x, d) := d.exchange r
    (c.answer r.endpoint x, some (c.record r.endpoint), d)

end CannedDevice

end TitleDock
