set_option autoImplicit false

/-!
# Names of forms

The records that the program takes and gives have fixed forms.  This module names them, by the
part of the program that they belong to.
-/

namespace Scriptorium

/-- The name of a form. -/
inductive FormName where
  -- Documents that belong to projects
  | paperBase
  | paperCreate
  | paperUpdate
  | paperStored
  | paper
  | paperWithProject
  -- Projects
  | projectBase
  | projectCreate
  | projectUpdate
  | projectStored
  | project
  | projectWithPapers
  -- Users and tokens
  | userBase
  | userCreate
  | userUpdate
  | userStored
  | user
  | userWithPassword
  | token
  | tokenPayload
  -- Drafting and reviewing by an assistant
  | draftOrder
  | draftAnalysis
  | draftSuggestion
  | draft
  | reviewOrder
  | review
  | assistantSettings
  | integrationCreate
  | integrationUpdate
  | integration
  | draftKind
  -- Documents that are edited together
  | sheetBase
  | sheetVersionBase
  | sheetCommentBase
  | sheetCreate
  | sheetVersionCreate
  | sheetCommentCreate
  | sheetUpdate
  | sheetVersionUpdate
  | sheetCommentUpdate
  | sheetUser
  | sheet
  | sheetVersion
  | sheetComment
  | socketMessage
  | cursorMessage
  | contentMessage
  | commentMessage
  | versionNotice
  | commentNotice
  | permission
  | permissionUpdate
  -- Templates
  | templateVariable
  | templateSection
  | templateBase
  | templateCreate
  | templateUpdate
  | template
  -- Inputs of projects
  | inputSnippet
  | inputComment
  | inputPrompt
  | projectInput
  -- Documents of the plain store
  | storedSnippet
  | generationRequest
  | storedBase
  | stored
  -- Requests to the writing service
  | writingRequest
  | writingOrder
  deriving DecidableEq, Repr

end Scriptorium
