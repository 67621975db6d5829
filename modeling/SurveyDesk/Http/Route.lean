/-!
The routes of the service. Each has a path of its own and one method.
-/
namespace SurveyDesk.Http

/-- The operations that are made on behalf of a caller. -/
inductive Operation where
  | add
  | create
  | update
  | delete
  | list
  | saveConfig
  | get
  | publish
  | data
  deriving DecidableEq, Repr

/-- The routes. -/
inductive Route where
  | health
  | refresh
  | logout
  | banners
  | history
  | operation (wanted : Operation)
  deriving DecidableEq, Repr

/-- Whether an operation reads a body; the others read a query. -/
def Operation.readsBody : Operation → Bool
  | .list | .get | .data => false
  | _ => true

/-- The path of an operation. -/
def Operation.path : Operation → String
  | .add => "/api/surveyManage/add"
  | .create => "/api/surveyManage/create"
  | .update => "/api/surveyManage/update"
  | .delete => "/api/surveyManage/delete"
  | .list => "/api/surveyManage/list"
  | .saveConfig => "/api/surveyManage/saveConf"
  | .get => "/api/surveyManage/get"
  | .publish => "/api/surveyManage/publish"
  | .data => "/api/surveyManage/data"

namespace Route

/-- The path of a route. -/
def path : Route → String
  | .health => "/healthz"
  | .refresh => "/api/auth/refresh"
  | .logout => "/api/auth/logout"
  | .banners => "/api/surveyManage/getBannerData"
  | .history => "/api/surveyManage/getHistoryList"
  | .operation wanted => wanted.path

/-- The method of a route. -/
def method : Route → String
  | .health | .banners | .history => "GET"
  | .refresh | .logout => "POST"
  | .operation wanted => if wanted.readsBody then "POST" else "GET"

/-- The routes. -/
def all : List Route :=
  [.refresh, .logout, .banners, .operation .add, .operation .create, .operation .update,
    .operation .delete, .operation .list, .operation .saveConfig, .operation .get, .history,
    .operation .publish, .operation .data, .health]

/-- The route that a path leads to. A line feed behind the path is passed over. -/
def ofPath? (path : String) : Option Route :=
  all.find? fun route => route.path = path || route.path ++ "\n" = path

end Route

/-- A path without the slashes at its end. -/
def withoutSlashes (path : String) : String :=
  String.ofList (path.toList.reverse.dropWhile (· = '/')).reverse

/-- The paths of the pages that describe the service. -/
def manualPaths : List String := ["/openapi.json", "/docs", "/docs/oauth2-redirect", "/redoc"]

/-- Whether a path leads anywhere. -/
def isKnown (path : String) : Bool :=
  (Route.ofPath? path).isSome || manualPaths.any fun known => known = path || known ++ "\n" = path

/-- Whether a path leads anywhere once the slashes at its end are taken away. -/
def isSlashed (path : String) : Bool :=
  path ≠ withoutSlashes path && isKnown (withoutSlashes path)

end SurveyDesk.Http
