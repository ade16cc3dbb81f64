import DriverUplift.Github.Records
import DriverUplift.Project
import DriverUplift.Session

/-!
# The API client

Each lookup asks for one address and takes what it needs from the answer.
-/

namespace DriverUplift.Github

/-- A transport and the root of the API. -/
structure Client where
  transport : Transport
  apiBase : String

namespace Client

def download (client : Client) (url : String) : Session String :=
  Session.fetch client.transport url

def latestRelease (client : Client) (project : Project) : Session Release := do
  let url := project.releasesUrl client.apiBase
  let body ← client.download url
  Session.ofExcept (Github.latestRelease url body)

def latestRun (client : Client) (project : Project) (workflow : String) :
    Session WorkflowRun := do
  let url := project.successfulRunsUrl client.apiBase workflow
  let body ← client.download url
  Session.ofExcept (Github.latestRun url body)

def artifactUrl (client : Client) (project : Project) (name : String) : Session String := do
  let url := project.artifactsUrl client.apiBase name
  let body ← client.download url
  Session.ofExcept (Github.artifactUrl name url body)

end Client

end DriverUplift.Github
