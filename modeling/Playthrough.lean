import Playthrough.Epilogue.Alone
import Playthrough.Interpreter.Alone
import Playthrough.Main
import Playthrough.Presets.Catalogue
import Playthrough.Server.Operations
import Playthrough.Session.Alone
import Playthrough.Session.Document
import Playthrough.Task.Run
import Playthrough.Task.Script
import Playthrough.Proofs.Task.Exchange
import Playthrough.Proofs.Task.Solo
import Playthrough.Proofs.Interpreter.Recital
import Playthrough.Proofs.Interpreter.Voice
import Playthrough.Proofs.Interpreter.Staging
import Playthrough.Proofs.Interpreter.Walkthrough
import Playthrough.Proofs.Task.Watch
import Playthrough.Proofs.Interpreter.Segments
import Playthrough.Proofs.Interpreter.Hints
import Playthrough.Proofs.Interpreter.Performance
import Playthrough.Proofs.Task.Tickets
import Playthrough.Proofs.Task.Conduct
import Playthrough.Proofs.Interpreter.Stops
import Playthrough.Proofs.Session.Players
import Playthrough.Proofs.Session.Standing
import Playthrough.Proofs.Session.Playback
import Playthrough.Proofs.Session.Course
import Playthrough.Proofs.Session.Handover
import Playthrough.Proofs.Session.Resumption
import Playthrough.Proofs.Session.Requests
import Playthrough.Proofs.Session.Soundness
import Playthrough.Proofs.Session.Phases
import Playthrough.Proofs.Task.Pursuit
import Playthrough.Proofs.Session.Completion
import Playthrough.Proofs.Session.Journey
import Playthrough.Proofs.Task.Permission
import Playthrough.Proofs.Session.Accounting
import Playthrough.Proofs.Interpreter.Lasting
import Playthrough.Proofs.Task.Overtaking
import Playthrough.Proofs.Session.Lasting
import Playthrough.Proofs.Session.Overtaking
import Playthrough.Proofs.Scene.Usability
import Playthrough.Proofs.Repository.Loading
import Playthrough.Proofs.Server.Creation
import Playthrough.Proofs.Interpreter.Standing
import Playthrough.Proofs.Interpreter.Requests
import Playthrough.Proofs.Interpreter.Soundness
import Playthrough.Proofs.Interpreter.Overtaking
import Playthrough.Proofs.Task.Draining
import Playthrough.Proofs.Interpreter.Regularity
import Playthrough.Proofs.Session.Presentation
import Playthrough.Proofs.Interpreter.Composition
import Playthrough.Proofs.Session.Demands
import Playthrough.Proofs.Session.Renewal
import Playthrough.Proofs.Task.Discretion
import Playthrough.Proofs.Session.Afresh
import Playthrough.Proofs.Scene.Encoding
import Playthrough.Proofs.Scene.Roundtrip
import Playthrough.Proofs.Json.Objects
import Playthrough.Proofs.Storage.Fields
import Playthrough.Proofs.Storage.Keeping
import Playthrough.Proofs.Server.Capacity
import Playthrough.Proofs.Server.Refusals
import Playthrough.Proofs.Server.Chronicle
import Playthrough.Proofs.Session.Annals
import Playthrough.Proofs.Server.Retirement
import Playthrough.Proofs.Interpreter.Suspension
import Playthrough.Proofs.Interpreter.Transparency
import Playthrough.Proofs.Task.Dismissal
import Playthrough.Proofs.Session.Contention
import Playthrough.Proofs.Task.Lodging
import Playthrough.Proofs.Task.Lodgers
import Playthrough.Proofs.Task.Neighbours
import Playthrough.Proofs.Repository.Serving
import Playthrough.Proofs.Repository.Listing
import Playthrough.Proofs.Epilogue.Conclusion
import Playthrough.Proofs.Interpreter.Sturdiness
import Playthrough.Proofs.Server.Independence
import Playthrough.Proofs.Server.Afresh
import Playthrough.Proofs.Repository.Confinement
import Playthrough.Proofs.Server.Complaints
import Playthrough.Proofs.Launcher.Handover
