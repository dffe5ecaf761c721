import Grounding.Gateway.Loose
import Grounding.Http.Body
import Grounding.Http.Target
import Grounding.Text.Capital

/-!
# The HTTP surface

Operators and the inference server reach a gateway through a handful of routes.  A broken service
shows in the result of a call and not as an HTTP error; but messages that nest too deep cannot be
copied or sent back, and neither can a text without an encoding, wherever it comes from.
-/

namespace Grounding.Http

inductive Route where
  | banner
  | liveness
  | health
  | augment
  | prepare
  | settings
deriving DecidableEq

namespace Route

def table : List (String × Route) :=
  [("/", .banner), ("/health", .liveness), ("/rag/health", .health), ("/rag/augment", .augment),
    ("/rag/prepare", .prepare), ("/rag/config", .settings)]

/-- The route at a path.  A line feed at the end of a path goes unnoticed. -/
def ofPath? (path : List Char) : Option Route :=
  (table.find? fun entry => path == entry.1.toList || path == entry.1.toList ++ ['\n']).map (·.2)

def methods : Route → List String
  | .banner | .liveness | .health => ["GET"]
  | .augment | .prepare => ["POST"]
  | .settings => ["GET", "PUT"]

end Route

inductive Destination where
  | route (route : Route)
  /-- Nothing is there, but without slashes at its end the path would be that of a route. -/
  | moved
  | nowhere
deriving DecidableEq

def Destination.ofPath (path : List Char) : Destination :=
  match Route.ofPath? path with
  | some found => .route found
  | none =>
    if path.getLast? = some '/' && (Route.ofPath? (Target.dropSlashes path)).isSome then .moved
    else .nowhere

def answerStill (g : Gateway) (service : Service) (r : Response) : Outcome Response :=
  g.still service r 0

def preparedJson (p : Gateway.Prepared) : Json :=
  .obj [("messages", p.messages), ("rag_used", .bool p.retrieval.isSome),
    ("result", (p.retrieval.map Retrieval.toJson).getD .null)]

/-- Whether a message nests too deep to be sent back. -/
def isTooDeep : Json → Bool
  | .obj members => members.any fun entry => Response.depthLimit < entry.2.depth
  | _ => false

def preparedResponse (platform : Platform) : Except CallFault Gateway.Prepared → Response
  | .error _ => .internalError
  | .ok p =>
    match p.messages with
    | .arr items =>
      if items.any isTooDeep then .internalError
      else
        match shownItems platform items with
        | none => .internalError
        | some shown => .ok (preparedJson { p with messages := .arr shown })
    | _ => .ok (preparedJson p)

def postAugment (g : Gateway) (body : List UInt8) (service : Service) : Outcome Response :=
  match readChecked service.room body AugmentBody.ofMembers with
  | .error fault => answerStill g service fault.response
  | .ok input =>
    let asked := g.augment input.query input.session service
    { asked with result := .ok asked.result.toJson }

def postPrepare (g : Gateway) (body : List UInt8) (today : Date) (service : Service) :
    Outcome Response :=
  match readChecked service.room body PrepareBody.ofMembers with
  | .error fault => answerStill g service fault.response
  | .ok input =>
    let prepared :=
      g.prepareLoose (.arr input.messages) (.obj input.options) (.str input.session) today service
    { prepared with result := preparedResponse g.platform prepared.result }

def getHealth (g : Gateway) (service : Service) : Outcome Response :=
  let asked := g.isHealthy service
  { asked with
    result := .ok (.obj [("enabled", .bool g.settings.isEnabled), ("healthy", .bool asked.result)]) }

def putSettings (g : Gateway) (body : List UInt8) (service : Service) : Outcome Response :=
  match readChecked service.room body Settings.ofMembers with
  | .error fault => answerStill g service fault.response
  | .ok settings =>
    match g.update settings.values with
    | (.ok (), next, notices) => next.still service (.ok next.settings.toJson) notices
    | (.error _, next, notices) => next.still service .internalError notices

/-- The response of a route to a method that it allows. -/
def serve (g : Gateway) (route : Route) (method : String) (body : List UInt8) (today : Date)
    (service : Service) : Outcome Response :=
  match route with
  | .banner =>
    answerStill g service (.ok (.obj [("status", .str "RAG middleware running")]))
  | .liveness => answerStill g service (.ok (.obj [("ok", .bool true)]))
  | .health => getHealth g service
  | .augment => postAugment g body service
  | .prepare => postPrepare g body today service
  | .settings =>
    if method = "PUT" then putSettings g body service
    else answerStill g service (.ok g.settings.toJson)

/-- A response without its content, as a `HEAD` call gets it. -/
def bodiless (method : String) (r : Response) : Response :=
  if method = "HEAD" then ⟨r.status, .text ""⟩ else r

def respond (g : Gateway) (call : Call) (today : Date) (service : Service) : Outcome Response :=
  let method := Text.capitals call.method
  match Destination.ofPath call.path with
  | .nowhere => answerStill g service (bodiless method .notFound)
  | .moved => answerStill g service .moved
  | .route route =>
    if route.methods.contains method then serve g route method call.body today service
    else answerStill g service (bodiless method .methodNotAllowed)

end Grounding.Http
