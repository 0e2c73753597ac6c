import TaskGrid.Wire.Messages

/-!
The remote calls of a control plane, with the messages they carry in either direction.
-/

namespace TaskGrid.Rpc

open Wire (Schema)

inductive Method where
  | createSession | cancelSession | closeSession | purgeSession
  | createResultsMetaData | createResults | getResult | deleteResultsData | getServiceConfiguration
  | uploadResultData | downloadResultData
  | submitTasks | getResultIds
  | getResultStatus | tryGetTaskOutput
  deriving DecidableEq, Repr

namespace Method

def name : Method → String
  | createSession => "CreateSession"
  | cancelSession => "CancelSession"
  | closeSession => "CloseSession"
  | purgeSession => "PurgeSession"
  | createResultsMetaData => "CreateResultsMetaData"
  | createResults => "CreateResults"
  | getResult => "GetResult"
  | deleteResultsData => "DeleteResultsData"
  | getServiceConfiguration => "GetServiceConfiguration"
  | uploadResultData => "UploadResultData"
  | downloadResultData => "DownloadResultData"
  | submitTasks => "SubmitTasks"
  | getResultIds => "GetResultIds"
  | getResultStatus => "GetResultStatus"
  | tryGetTaskOutput => "TryGetTaskOutput"

def group : Method → String
  | createSession | cancelSession | closeSession | purgeSession => "sessions.Sessions"
  | createResultsMetaData | createResults | getResult | deleteResultsData | getServiceConfiguration
  | uploadResultData | downloadResultData => "results.Results"
  | submitTasks | getResultIds => "tasks.Tasks"
  | getResultStatus | tryGetTaskOutput => "submitter.Submitter"

def path (m : Method) : String := m.group ++ "/" ++ m.name

/-- The messages that a client sends: any number of them for an upload, and one for all others. -/
abbrev request : Method → Schema
  | createSession => Wire.Message.createSessionRequest
  | cancelSession | closeSession | purgeSession => Wire.Message.sessionIdRequest
  | createResultsMetaData => Wire.Message.createResultsMetaDataRequest
  | createResults => Wire.Message.createResultsRequest
  | getResult => Wire.Message.getResultRequest
  | deleteResultsData => Wire.Message.deleteResultsDataRequest
  | getServiceConfiguration => Wire.Message.nothing
  | uploadResultData => Wire.Message.uploadResultDataRequest
  | downloadResultData => Wire.Message.downloadResultDataRequest
  | submitTasks => Wire.Message.submitTasksRequest
  | getResultIds => Wire.Message.getResultIdsRequest
  | getResultStatus => Wire.Message.getResultStatusRequest
  | tryGetTaskOutput => Wire.Message.taskOutputRequest

/-- The messages that a server sends: any number of them for a download, and one for all others. -/
abbrev reply : Method → Schema
  | createSession => Wire.Message.createSessionReply
  | cancelSession | closeSession | purgeSession => Wire.Message.sessionResponse
  | createResultsMetaData | createResults => Wire.Message.createResultsResponse
  | getResult => Wire.Message.getResultResponse
  | deleteResultsData => Wire.Message.deleteResultsDataResponse
  | getServiceConfiguration => Wire.Message.serviceConfigurationResponse
  | uploadResultData => Wire.Message.uploadResultDataResponse
  | downloadResultData => Wire.Message.downloadResultDataResponse
  | submitTasks => Wire.Message.submitTasksResponse
  | getResultIds => Wire.Message.getResultIdsResponse
  | getResultStatus => Wire.Message.getResultStatusReply
  | tryGetTaskOutput => Wire.Message.output

end Method
end TaskGrid.Rpc
