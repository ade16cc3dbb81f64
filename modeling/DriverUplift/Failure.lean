import DriverUplift.Http.Status
import DriverUplift.Manifest

/-!
# Failures

Everything that can end a run early, and the message for each cause.
-/

namespace DriverUplift

inductive HttpError where
  | status (code : Nat)
  | tooManyRedirects
  | missingLocation
  | missingHost
  | missingPort
  | invalidBase
  | noConnection (reason : String)
  deriving DecidableEq, Repr

def HttpError.words : HttpError → String
  | status code =>
      "Status code " ++ toString code ++ " " ++ Http.phrase code ++ " indicates failure"
  | tooManyRedirects => "Too many redirections"
  | missingLocation => "InvalidResponse: missing or invalid location header"
  | missingHost => "URL is missing a host"
  | missingPort => "URL is missing a port"
  | invalidBase => "Invalid base URL"
  | noConnection reason => reason

inductive FileError where
  | notFound
  | notFolder
  | isFolder
  | alreadyThere
  | nameTooLong
  | nulInName
  | notText
  | other (reason : String)
  deriving DecidableEq, Repr

def FileError.words : FileError → String
  | notFound => "No such file or directory (os error 2)"
  | notFolder => "Not a directory (os error 20)"
  | isFolder => "Is a directory (os error 21)"
  | alreadyThere => "File exists (os error 17)"
  | nameTooLong => "File name too long (os error 36)"
  | nulInName => "file name contained an unexpected NUL byte"
  | notText => "stream did not contain valid UTF-8"
  | other reason => reason

inductive Listing where
  | releases
  | workflowRuns
  | artifacts
  deriving DecidableEq, Repr

def Listing.words : Listing → String
  | releases => "releases"
  | workflowRuns => "successful workflow runs"
  | artifacts => "artifacts"

/-- Why an uplift ended early. -/
inductive Failure where
  | http (error : HttpError)
  | json (error : Json.Error)
  | emptyList (listing : Listing) (url : String)
  | file (path : String) (error : FileError)
  | manifest (error : ManifestError)
  | igcVersionNotFound (tag : String)
  deriving DecidableEq

def Failure.message : Failure → String
  | http error => "HTTP request failed: " ++ error.words
  | json error => "unexpected API response: " ++ error.message
  | emptyList listing url => "no " ++ listing.words ++ " returned by " ++ url
  | file path error => path ++ ": " ++ error.words
  | manifest error => error.message
  | igcVersionNotFound tag =>
      "no intel-igc-core version found in compute-runtime " ++ tag ++ " checksums"

end DriverUplift
