import FragmentSink.Cli.Run
import FragmentSink.Http.Endpoints
import FragmentSink.Main
import FragmentSink.Metrics.Exposition
import FragmentSink.Proofs.Engine.Consistency
import FragmentSink.Proofs.Engine.Delivery
import FragmentSink.Proofs.Engine.Independence
import FragmentSink.Proofs.Recording
import FragmentSink.Proofs.Storage.Redelivery
import FragmentSink.Proofs.Worker.Bounds
import FragmentSink.Rehearsal.Stream
import FragmentSink.Proofs.Text.Lines
import FragmentSink.Proofs.Metrics.Published
import FragmentSink.Proofs.Engine.Balance
import FragmentSink.Proofs.Engine.Finish
import FragmentSink.Proofs.Engine.Gauges
import FragmentSink.Proofs.Engine.Stops
import FragmentSink.Proofs.Engine.Endings
import FragmentSink.Proofs.Metrics.Totals
import FragmentSink.Proofs.Storage.Shadows
import FragmentSink.Proofs.Storage.Attempts
import FragmentSink.Proofs.Engine.FinalFlush
import FragmentSink.Proofs.Engine.Orders
import FragmentSink.Proofs.Engine.Lag
import FragmentSink.Proofs.Engine.Attempts
import FragmentSink.Proofs.Engine.StreamErrors
import FragmentSink.Proofs.Engine.Recovery
import FragmentSink.Proofs.Backoff
import FragmentSink.Proofs.Storage.Listing
import FragmentSink.Proofs.Retries
import FragmentSink.Proofs.Engine.Overflows
import FragmentSink.Proofs.Status.Addresses
