import TaskGrid.Wire.Schema

/-!
The messages of the control plane, as far as a client needs them.
-/

namespace TaskGrid.Wire.Message

abbrev nothing : Schema := .done

abbrev duration : Schema := .scalar 1 "seconds" .int64 <| .scalar 2 "nanos" .int32 .done

abbrev taskOptions : Schema :=
  .table 1 "options" <|
  .message 2 "max_duration" duration <|
  .scalar 3 "max_retries" .int32 <|
  .scalar 4 "priority" .int32 <|
  .scalar 5 "partition_id" .text <|
  .scalar 6 "application_name" .text <|
  .scalar 7 "application_version" .text <|
  .scalar 8 "application_namespace" .text <|
  .scalar 9 "application_service" .text <|
  .scalar 10 "engine_type" .text .done

/-! Sessions. -/

abbrev sessionRaw : Schema := .scalar 1 "session_id" .text <| .scalar 2 "status" .int32 .done

abbrev createSessionRequest : Schema :=
  .message 1 "default_task_option" taskOptions <| .texts 2 "partition_ids" .done

abbrev createSessionReply : Schema := .scalar 1 "session_id" .text .done

abbrev sessionIdRequest : Schema := .scalar 1 "session_id" .text .done

abbrev sessionResponse : Schema := .message 1 "session" sessionRaw .done

/-! Results. -/

abbrev resultRaw : Schema :=
  .scalar 1 "session_id" .text <|
  .scalar 2 "name" .text <|
  .scalar 3 "owner_task_id" .text <|
  .scalar 4 "status" .int32 <|
  .scalar 7 "result_id" .text .done

abbrev emptyResultCreate : Schema := .scalar 1 "name" .text .done

abbrev createResultsMetaDataRequest : Schema :=
  .messages 1 "results" emptyResultCreate <| .scalar 2 "session_id" .text .done

abbrev createResultsResponse : Schema := .messages 1 "results" resultRaw .done

abbrev resultCreate : Schema := .scalar 1 "name" .text <| .scalar 2 "data" .octets .done

abbrev createResultsRequest : Schema :=
  .messages 1 "results" resultCreate <| .scalar 2 "session_id" .text .done

abbrev getResultRequest : Schema := .scalar 1 "result_id" .text .done

abbrev getResultResponse : Schema := .message 1 "result" resultRaw .done

abbrev downloadResultDataRequest : Schema :=
  .scalar 1 "session_id" .text <| .scalar 2 "result_id" .text .done

abbrev downloadResultDataResponse : Schema := .scalar 1 "data_chunk" .octets .done

abbrev deleteResultsDataRequest : Schema :=
  .scalar 1 "session_id" .text <| .texts 2 "result_id" .done

abbrev deleteResultsDataResponse : Schema :=
  .scalar 1 "session_id" .text <| .texts 2 "result_id" .done

abbrev serviceConfigurationResponse : Schema := .scalar 1 "data_chunk_max_size" .int32 .done

abbrev resultIdentifier : Schema := .scalar 1 "session_id" .text <| .scalar 2 "result_id" .text .done

abbrev uploadCases : Schema := .message 1 "id" resultIdentifier <| .scalar 2 "data_chunk" .octets .done

abbrev uploadResultDataRequest : Schema := .choice "type" uploadCases .done

abbrev uploadResultDataResponse : Schema := .message 1 "result" resultRaw .done

/-! Tasks. -/

abbrev taskCreation : Schema :=
  .texts 1 "expected_output_keys" <|
  .texts 2 "data_dependencies" <|
  .scalar 3 "payload_id" .text <|
  .message 4 "task_options" taskOptions .done

abbrev submitTasksRequest : Schema :=
  .scalar 1 "session_id" .text <|
  .message 2 "task_options" taskOptions <|
  .messages 3 "task_creations" taskCreation .done

abbrev taskInfo : Schema :=
  .scalar 1 "task_id" .text <|
  .texts 2 "expected_output_ids" <|
  .texts 3 "data_dependencies" <|
  .scalar 4 "payload_id" .text .done

abbrev submitTasksResponse : Schema := .messages 1 "task_infos" taskInfo .done

abbrev getResultIdsRequest : Schema := .texts 1 "task_id" .done

abbrev mapTaskResult : Schema := .scalar 1 "task_id" .text <| .texts 2 "result_ids" .done

abbrev getResultIdsResponse : Schema := .messages 1 "task_results" mapTaskResult .done

/-! Statuses and outputs. -/

abbrev getResultStatusRequest : Schema := .texts 1 "result_ids" <| .scalar 2 "session_id" .text .done

abbrev idStatus : Schema := .scalar 1 "result_id" .text <| .scalar 2 "status" .int32 .done

abbrev getResultStatusReply : Schema := .messages 1 "id_statuses" idStatus .done

abbrev taskOutputRequest : Schema := .scalar 1 "session" .text <| .scalar 2 "task_id" .text .done

abbrev outputError : Schema := .scalar 1 "details" .text .done

abbrev outputCases : Schema := .message 2 "ok" nothing <| .message 3 "error" outputError .done

abbrev output : Schema := .choice "type" outputCases .done

/-- Every message under its name; a message inside another is named after it. -/
def catalogue : List (String × Schema) := [
  ("Empty", nothing),
  ("Duration", duration),
  ("TaskOptions", taskOptions),
  ("SessionRaw", sessionRaw),
  ("CreateSessionRequest", createSessionRequest),
  ("CreateSessionReply", createSessionReply),
  ("SessionIdRequest", sessionIdRequest),
  ("SessionResponse", sessionResponse),
  ("ResultRaw", resultRaw),
  ("CreateResultsMetaDataRequest", createResultsMetaDataRequest),
  ("CreateResultsMetaDataRequest.ResultCreate", emptyResultCreate),
  ("CreateResultsResponse", createResultsResponse),
  ("CreateResultsRequest", createResultsRequest),
  ("CreateResultsRequest.ResultCreate", resultCreate),
  ("GetResultRequest", getResultRequest),
  ("GetResultResponse", getResultResponse),
  ("DownloadResultDataRequest", downloadResultDataRequest),
  ("DownloadResultDataResponse", downloadResultDataResponse),
  ("DeleteResultsDataRequest", deleteResultsDataRequest),
  ("DeleteResultsDataResponse", deleteResultsDataResponse),
  ("ResultsServiceConfigurationResponse", serviceConfigurationResponse),
  ("UploadResultDataRequest", uploadResultDataRequest),
  ("UploadResultDataRequest.ResultIdentifier", resultIdentifier),
  ("UploadResultDataResponse", uploadResultDataResponse),
  ("SubmitTasksRequest", submitTasksRequest),
  ("SubmitTasksRequest.TaskCreation", taskCreation),
  ("SubmitTasksResponse", submitTasksResponse),
  ("SubmitTasksResponse.TaskInfo", taskInfo),
  ("GetResultIdsRequest", getResultIdsRequest),
  ("GetResultIdsResponse", getResultIdsResponse),
  ("GetResultIdsResponse.MapTaskResult", mapTaskResult),
  ("GetResultStatusRequest", getResultStatusRequest),
  ("GetResultStatusReply", getResultStatusReply),
  ("GetResultStatusReply.IdStatus", idStatus),
  ("TaskOutputRequest", taskOutputRequest),
  ("Output", output),
  ("Output.Error", outputError)]

def named? (name : String) : Option Schema := (catalogue.find? (·.1 = name)).map Prod.snd

end TaskGrid.Wire.Message
